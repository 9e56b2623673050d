import ForeignCollections.Proofs.Registry.Order
import ForeignCollections.Proofs.Value.Json
import ForeignCollections.Proofs.Vavr.Routes

/-!
The command that converts a JSON text. Whatever type is asked for, what is printed is what was
read, members and items in their order; only an array that goes into a set loses its repetitions.
That holds for the registry over the Vavr family and for the one without it, since the types that
can be named are those of the catalogues, and what is read from a text is native.
-/

namespace ForeignCollections

namespace Value

lemma OfJson.runtimeType_mem {j : Json} {v : Value} (h : OfJson j v) :
    v.runtimeType ∈ Native.all := by
  cases h <;> simp [runtimeType, arrayList, Native.all, Native.object]

end Value

namespace Vavr

lemma not_set_of_seq {t : Ty} (ht : t ∈ catalogue) (h : seq.isAssignableFrom t = true) :
    set.isAssignableFrom t = false := by
  have htable : (catalogue.all fun t =>
      !(seq.isAssignableFrom t && set.isAssignableFrom t)) = true := by cbv
  simpa [h] using List.all_eq_true.mp htable t ht

end Vavr

namespace Environment

lemma registry_eq_ok_iff {env : Environment} {gs : List Registrar} {r : Registry} :
    env.registry gs = .ok r ↔
      ∃ c, env.config = .ok c ∧ Registry.configured c gs = .ok r := by
  rw [registry]
  cases env.config <;> simp [mapError_eq_ok_iff]

end Environment

namespace Cli

open Value Vavr

/-- The registry is one that the program can have: the Vavr family takes part, or nobody does. -/
def OfProgram (r : Registry) : Prop :=
  r.registrars = [] ∨ Registry.build registrars = .ok r

lemma ofProgram_of_registry {env : Environment} {r : Registry}
    (h : env.registry registrars = .ok r) : OfProgram r := by
  obtain ⟨c, -, h⟩ := Environment.registry_eq_ok_iff.mp h
  rw [Registry.configured, registrars, List.filter_singleton] at h
  cases hd : c.isDisabled Vavr.registrar.id <;> rw [hd] at h
  · exact Or.inr h
  · exact Or.inl (Registry.registrars_of_build h)

/-- What is printed for an input: an array that goes into a set loses its repetitions, and
everything else stays as it is. -/
noncomputable def printedValue (target : Ty) : Json → Json
  | .array js => if Vavr.set.isAssignableFrom target then .array (Json.firsts js) else .array js
  | j => j

variable {r : Registry} {target : Ty} {j : Json} {v w : Value}

lemma printedValue_of_not_set (h : Vavr.set.isAssignableFrom target = false) (j : Json) :
    printedValue target j = j := by
  cases j with
  | array js => rw [printedValue, h, if_neg (by decide)]
  | _ => rfl

section

variable (hj : j.WellFormed) (hv : ofJson j = .ok v)

include hj hv

lemma toJson_of_wrapped (ht : target ∈ catalogue)
    (h : wrapped v v.runtimeType target = .ok w) : w.toJson = printedValue target j := by
  have hjson := toJson_of_ofJson hj hv
  cases ofJson_cases hj hv with
  | null | bool | int | text =>
    cases h
    exact hjson
  | array =>
    -- of all that can be built from an array list, a set alone leaves anything out
    cases wraps_of_wrapped h with
    | scalar hc => cases hc
    | sequence hseq _ hw =>
      rw [printedValue_of_not_set (not_set_of_seq ht hseq), hw]
      exact hjson
    | set hset _ hw =>
      rw [printedValue, if_pos hset, hw]
      exact toJson_setOf hj hv _
    | map _ hm => cases hm
    | plainSequence hn _ _ hw =>
      obtain rfl := eq_of_name_eq ht traversable_mem_catalogue hn
      rw [printedValue_of_not_set (by cbv), hw]
      exact hjson
    | plainSet _ hs => exact absurd hs (Bool.eq_false_iff.mp (by cbv))
    | plainMap _ _ hm => cases hm
    | asIs _ hl => exact absurd (by cbv) (Bool.eq_false_iff.mp hl)
  | object =>
    -- a map is built into maps only, with the entries that it has
    cases wraps_of_wrapped h with
    | scalar hc => cases hc
    | sequence _ hs | set _ hs | plainSequence _ _ hs | plainSet _ _ hs => exact absurd rfl hs
    | map _ hm hw | plainMap _ _ hm hw =>
      cases hm
      rw [hw]
      exact hjson
    | asIs _ _ _ _ hw =>
      rw [hw]
      exact hjson

lemma toJson_of_assignable (ht : target ∈ catalogue)
    (h : target.isAssignableFrom v.runtimeType = true) : v.toJson = printedValue target j := by
  have hnative := (Ty.canonical_of_mem_catalogue ht).mem_native
    (ofJson_cases hj hv).runtimeType_mem h
  rw [printedValue_of_not_set (not_isAssignableFrom_native (base_mem_all .set) hnative),
    toJson_of_ofJson hj hv]

/-- **Conversion does not alter the input**, whatever rule is found for it. -/
lemma toJson_of_convert (hr : OfProgram r) (ht : target ∈ catalogue)
    (h : r.ruleBook.convert v target = .ok w) : w.toJson = printedValue target j := by
  rcases RuleBook.convert_cases h with ⟨rfl, rfl⟩ | ⟨ha, rfl⟩ | ⟨-, -, rule, hrule, h⟩
  · rw [← toJson_of_ofJson hj hv]
    rfl
  · exact toJson_of_assignable hj hv ht ha
  · rcases hr with hr | hr
    · rw [select?_of_no_registrars hr] at hrule
      cases hrule
    · rcases select?_cases hr hrule with ⟨-, htrav, -⟩ | ⟨rfl, -⟩
      · have hnative := (ofJson_cases hj hv).runtimeType_mem
        rw [not_isAssignableFrom_native List.mem_cons_self hnative] at htrav
        cases htrav
      · exact toJson_of_wrapped hj hv ht h

end

lemma target_mem_catalogue {name : String} (hr : OfProgram r) (h : r.lookup name = .ok target) :
    target ∈ catalogue := by
  have hmem := List.mem_of_find?_eq_some (Registry.lookup_eq_ok_iff.mp h)
  rcases hr with hr | hr
  · rw [Registry.knownTypes, hr] at hmem
    exact native_subset_catalogue (by simpa using Ty.mem_of_mem_distinct hmem)
  · rwa [knownTypes_eq hr] at hmem

lemma run_eq_success {env : Environment} {args : List String} {c : Command} {output : String}
    (hargs : Request.parse args = some (.command c)) (h : run env args = .success output) :
    ∃ r lines, env.registry registrars = .ok r ∧ c.run r = .ok lines ∧ output = unlines lines := by
  rw [run, hargs] at h
  dsimp only at h
  split at h
  · cases h
  · rename_i r hr
    split at h
    · rename_i lines hlines
      cases h
      exact ⟨r, lines, hr, hlines, rfl⟩
    · cases h

/-- What is printed, if the program is used rightly and does not fail. -/
def Outcome.output? : Outcome → Option String
  | success output => some output
  | _ => none

lemma Outcome.eq_success_of_output? {o : Outcome} {output : String}
    (h : o.output? = some output) : o = .success output := by
  cases o with
  | success s =>
    cases h
    rfl
  | _ => cases h

lemma Outcome.exists_success {o : Outcome} (h : o.status = 0) :
    ∃ output, o = .success output := by
  cases o with
  | success output => exact ⟨output, rfl⟩
  | _ => cases h

lemma convert_eq_ok {type text : String} {lines : List String}
    (h : convert r type text = .ok lines) : ∃ target j v w, r.lookup type = .ok target ∧
      Json.parse text = .ok j ∧ ofJson j = .ok v ∧ r.ruleBook.convert v target = .ok w ∧
      lines = [(convertedJson w).pretty] := by
  obtain ⟨target, htarget, h⟩ := bind_eq_ok_iff.mp h
  obtain ⟨w, hw, h⟩ := bind_eq_ok_iff.mp h
  obtain ⟨j, hj, hw⟩ := bind_eq_ok_iff.mp hw
  obtain ⟨v, hv, hw⟩ := bind_eq_ok_iff.mp hw
  cases h
  rw [mapError_eq_ok_iff] at htarget hj hv hw
  exact ⟨target, j, v, w, htarget, hj, hv, hw, rfl⟩

/-- **What the command prints.** Whenever it succeeds, its operands stand for a type and a JSON
value, and it prints this value with the name of some type. -/
theorem run_convert_printsInput {env : Environment} {args : List String} {type text : String}
    (hargs : Request.parse args = some (.command (.convert type text)))
    (h : (run env args).status = 0) : ∃ r target j name,
      env.registry registrars = .ok r ∧ r.lookup type = .ok target ∧ Json.parse text = .ok j ∧
      run env args = .success (unlines
        [Json.pretty (.object [("type", .text name), ("value", printedValue target j)])]) := by
  obtain ⟨output, hrun⟩ := Outcome.exists_success h
  obtain ⟨r, lines, hr, hlines, rfl⟩ := run_eq_success hargs hrun
  obtain ⟨target, j, v, w, htarget, hj, hv, hw, rfl⟩ := convert_eq_ok hlines
  have hs := ofProgram_of_registry hr
  have hvalue := toJson_of_convert (Json.wellFormed_of_parse hj) hv hs
    (target_mem_catalogue hs htarget) hw
  refine ⟨r, target, j, w.runtimeType.name, hr, htarget, hj, ?_⟩
  rw [hrun, convertedJson, hvalue]

def twice : String := "[\x7b\"a\": 1, \"b\": []\x7d, \x7b\"b\": [], \"a\": 1\x7d]"

def once : String := unlines
  ["\x7b",
   "  \"type\": \"io.vavr.collection.LinkedHashSet\",",
   "  \"value\": [",
   "    \x7b",
   "      \"a\": 1,",
   "      \"b\": []",
   "    \x7d",
   "  ]",
   "\x7d"]

/-- The second of two objects is left out of a set. -/
theorem run_convert_printsInput_twice :
    let args := ["convert", "io.vavr.collection.Set", twice]
    run {} args = .success once ∧ ∃ r target j name,
      Environment.registry {} registrars = .ok r ∧
      r.lookup "io.vavr.collection.Set" = .ok target ∧ Json.parse twice = .ok j ∧
      run {} args = .success (unlines
        [Json.pretty (.object [("type", .text name), ("value", printedValue target j)])]) := by
  intro args
  have hrun : run {} args = .success once := Outcome.eq_success_of_output? (by decide +kernel)
  refine ⟨hrun, run_convert_printsInput rfl ?_⟩
  rw [hrun]
  rfl

end Cli

end ForeignCollections
