import ForeignCollections.Proofs.Registry.Build
import ForeignCollections.Registry.Shared

/-!
The life of the registry that a process shares. Every call on it brings a registry along or
nothing, as asking for it does and an initialiser that fails. The first registry that is brought
along is published; whatever is called later meets that one, runs no initialiser and changes
nothing, and until then every call finds the shared registry as it was at the start.
-/

namespace ForeignCollections

namespace Environment

variable {env : Environment} {gs : List Registrar} {c : Config}

lemma registry_of_config_error {e : SetupError} (h : env.config = .error e) :
    env.registry gs = .error e := by
  rw [registry, h]

lemma registry_of_firstClash {m : Ty} (h : env.config = .ok c)
    (hm : Registrar.FirstClash (c.enabled gs) m) :
    env.registry gs = .error (.collection (.mapAndCollection m.name)) := by
  have hc := Registry.configured_eq_error_iff.mpr ⟨m, hm, rfl⟩
  rw [registry, h]
  show (Registry.configured c gs).mapError SetupError.collection = _
  rw [hc]
  rfl

end Environment

namespace SharedRegistry

/-- A call on the shared registry. -/
inductive Call where
  | ask
  | publish (r : Registry)
  | getOrInit {ε : Type} (init : Unit → Except ε Registry)
  | getOrSetUp (env : Environment) (registrars : List Registrar)

namespace Call

def apply (s : SharedRegistry) : Call → SharedRegistry
  | ask => s
  | publish r => (s.publish r).2
  | getOrInit init => (s.getOrInit init).state
  | getOrSetUp env registrars => (s.getOrSetUp env registrars).state

/-- The registry that the call brings along. -/
def brings? : Call → Option Registry
  | ask => none
  | publish r => some r
  | getOrInit init => (init ()).toOption
  | getOrSetUp env registrars => (env.registry registrars).toOption

end Call

/-- The shared registry of a process after some calls. -/
def after (calls : List Call) : SharedRegistry := calls.foldl Call.apply unpublished

/-- Nothing is published: initialisers are run, one that fails changes nothing, and the first
registry is published. -/
structure Waits (s : SharedRegistry) : Prop where
  published : s.published = none
  publish : ∀ r, s.publish r = (.ok r, ⟨some r⟩)
  init : ∀ {ε : Type} (init : Unit → Except ε Registry) (r : Registry), init () = .ok r →
    s.getOrInit init = ⟨.ok r, true, ⟨some r⟩⟩
  init_fails : ∀ {ε : Type} (init : Unit → Except ε Registry) (e : ε), init () = .error e →
    s.getOrInit init = ⟨.error e, true, s⟩
  setUp : ∀ env registrars r, env.registry registrars = .ok r →
    s.getOrSetUp env registrars = ⟨.ok r, true, ⟨some r⟩⟩
  setUp_unconfigured : ∀ (env : Environment) registrars e, env.config = .error e →
    s.getOrSetUp env registrars = ⟨.error e, true, s⟩
  setUp_clash : ∀ (env : Environment) registrars c m, env.config = .ok c →
    Registrar.FirstClash (c.enabled registrars) m →
    s.getOrSetUp env registrars = ⟨.error (.collection (.mapAndCollection m.name)), true, s⟩

/-- The registry is published: every call meets it, and none runs an initialiser or changes
anything. -/
structure Serves (s : SharedRegistry) (r : Registry) : Prop where
  published : s.published = some r
  publish : ∀ r', s.publish r' = (.error r', s)
  init : ∀ {ε : Type} (init : Unit → Except ε Registry), s.getOrInit init = ⟨.ok r, false, s⟩
  setUp : ∀ env registrars, s.getOrSetUp env registrars = ⟨.ok r, false, s⟩

variable {s : SharedRegistry} {r : Registry}

/-! ### One call -/

section

variable {ε : Type} {init : Unit → Except ε Registry}

lemma getOrInit_of_ok (h : s.published = none) (hr : init () = .ok r) :
    s.getOrInit init = ⟨.ok r, true, ⟨some r⟩⟩ := by
  simp [getOrInit, h, hr]

lemma getOrInit_of_error {e : ε} (h : s.published = none) (he : init () = .error e) :
    s.getOrInit init = ⟨.error e, true, s⟩ := by
  simp [getOrInit, h, he]

end

lemma waits_of_unpublished (h : s.published = none) : s.Waits where
  published := h
  publish r := by rw [publish, h]
  init init r hr := getOrInit_of_ok h hr
  init_fails init e he := getOrInit_of_error h he
  setUp env registrars r hr := getOrInit_of_ok h hr
  setUp_unconfigured env registrars e he :=
    getOrInit_of_error h (Environment.registry_of_config_error he)
  setUp_clash env registrars c m hc hm :=
    getOrInit_of_error h (Environment.registry_of_firstClash hc hm)

lemma serves_of_published (h : s.published = some r) : s.Serves r where
  published := h
  publish r' := by rw [publish, h]
  init init := by rw [getOrInit, h]
  setUp env registrars := by rw [getOrSetUp, getOrInit, h]

lemma published_getOrInit_of_unpublished (h : s.published = none) {ε : Type}
    (init : Unit → Except ε Registry) :
    (s.getOrInit init).state.published = (init ()).toOption := by
  cases hi : init () with
  | ok r =>
    rw [getOrInit_of_ok h hi]
    rfl
  | error e =>
    rw [getOrInit_of_error h hi]
    exact h

lemma published_apply (s : SharedRegistry) (c : Call) :
    (c.apply s).published = s.published.or c.brings? := by
  cases h : s.published with
  | none =>
    rw [Option.none_or]
    cases c with
    | ask => exact h
    | publish r => rw [Call.apply, (waits_of_unpublished h).publish, Call.brings?]
    | getOrInit init => exact published_getOrInit_of_unpublished h init
    | getOrSetUp env registrars => exact published_getOrInit_of_unpublished h _
  | some r =>
    have hs := serves_of_published h
    rw [Option.some_or]
    cases c with
    | ask => exact h
    | publish r' => rwa [Call.apply, hs.publish]
    | getOrInit init => rwa [Call.apply, hs.init]
    | getOrSetUp env registrars => rwa [Call.apply, hs.setUp]

/-! ### All calls -/

lemma published_foldl (s : SharedRegistry) (calls : List Call) :
    (calls.foldl Call.apply s).published = s.published.or (calls.findSome? Call.brings?) := by
  induction calls generalizing s with
  | nil => rw [List.foldl_nil, List.findSome?_nil, Option.or_none]
  | cons c calls ih =>
    rw [List.foldl_cons, ih, published_apply, List.findSome?_cons, Option.or_assoc]
    cases c.brings? <;> rfl

lemma published_after (calls : List Call) :
    (after calls).published = calls.findSome? Call.brings? :=
  published_foldl unpublished calls

/-- **The first registry is published, and no other**: it is what the first call brings along
that brings one. Up to then every call finds nothing published, and afterwards that registry. -/
theorem publishes_first (calls : List Call) :
    (after calls).published = calls.findSome? Call.brings? ∧
    (calls.findSome? Call.brings? = none → (after calls).Waits) ∧
    ∀ r, calls.findSome? Call.brings? = some r → ∀ later, (after (calls ++ later)).Serves r := by
  refine ⟨published_after calls, fun hnone => ?_, fun r hr later => ?_⟩
  · exact waits_of_unpublished ((published_after calls).trans hnone)
  · refine serves_of_published ?_
    rw [published_after, List.findSome?_append, hr, Option.some_or]

def emptyRegistry : Registry := ⟨[], rfl⟩

def brokenOff : Environment := { homeFile := .text "[" }

/-- Two initialisers fail before a registry is published; the same configuration does no harm
afterwards. -/
theorem publishes_first_afterFailures :
    let failed : List Call := [.getOrSetUp brokenOff [], .getOrInit fun _ => .error "not yet"]
    let calls := failed ++ [.publish emptyRegistry]
    (after failed).Waits ∧ (after (calls ++ [.getOrSetUp brokenOff []])).Serves emptyRegistry := by
  intro failed calls
  have hsetUp : (brokenOff.registry []).toOption = none :=
    Option.isNone_iff_eq_none.mp (by decide +kernel)
  have hfailed : failed.findSome? Call.brings? = none := by
    rw [List.findSome?_cons, Call.brings?, hsetUp]
    rfl
  have hcalls : calls.findSome? Call.brings? = some emptyRegistry := by
    rw [List.findSome?_append, hfailed]
    rfl
  exact ⟨(publishes_first failed).2.1 hfailed,
    (publishes_first calls).2.2 emptyRegistry hcalls _⟩

end SharedRegistry

end ForeignCollections
