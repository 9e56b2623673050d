import Mathlib.Data.Set.Defs
import Mathlib.Logic.Relation
import Mathlib.Tactic.Common
import ForeignCollections.Proofs.Ty.Distinct
import ForeignCollections.Ty.Hierarchy

/-!
What the generations above a type hold. Every handle in them is reached by going up declared
supertypes, and the names in them are closed under going up, as far as `keep` allows. So
assignability passes on through a type that the lower type follows, name by name. Passing over
handles of the root is no loss as long as these declare no supertypes themselves: then the
ancestors of a type are the types that its values are assignable to. In a family of types whose
handles agree on what a name stands for both conditions hold, and assignability is transitive.
-/

namespace ForeignCollections.Ty

/-- `s` is a direct supertype of `t`. -/
def Declares (t s : Ty) : Prop := s ∈ t.supers

/-- `s` is a handle of the hierarchy of `t`: `t` itself, or found by going up. -/
def Reaches : Ty → Ty → Prop := Relation.ReflTransGen Declares

/-- No handle of the root in the hierarchy of `t` declares supertypes. -/
def RootBare (t : Ty) : Prop := ∀ s, Reaches t s → s.isObject = true → s.supers = []

lemma Reaches.rootBare {t s : Ty} (h : Reaches t s) (ht : RootBare t) : RootBare s :=
  fun u hu => ht u (h.trans hu)

lemma Reaches.mem {ts : List Ty} (hts : ts.flatMap supers ⊆ ts) {t s : Ty} (h : Reaches t s)
    (ht : t ∈ ts) : s ∈ ts := by
  induction h with
  | refl => exact ht
  | tail _ hs ih => exact hts (List.mem_flatMap.mpr ⟨_, ih, hs⟩)

lemma isObject_iff {t : Ty} : t.isObject = true ↔ t.name = object.name := beq_iff

lemma mem_map_name {n : String} {ts : List Ty} : n ∈ ts.map name ↔ ∃ t ∈ ts, t.name = n :=
  List.mem_map

variable {keep : Ty → Bool} {seen : List String} {level : List Ty}

lemma mem_nextGeneration {s : Ty} (h : s ∈ nextGeneration keep seen level) :
    (∃ t ∈ level, Declares t s) ∧ keep s = true := by
  obtain ⟨hs, -⟩ := mem_of_mem_unseen h
  obtain ⟨hs, hk⟩ := List.mem_filter.mp hs
  exact ⟨List.mem_flatMap.mp hs, hk⟩

lemma mem_names_nextGeneration {n : String} :
    n ∈ (nextGeneration keep seen level).map name ↔
      (∃ t ∈ level, ∃ s, Declares t s ∧ keep s = true ∧ s.name = n) ∧ n ∉ seen := by
  rw [nextGeneration, mem_names_unseen, mem_map_name]
  refine and_congr_left fun _ => ⟨?_, ?_⟩
  · rintro ⟨s, hs, rfl⟩
    obtain ⟨hs, hk⟩ := List.mem_filter.mp hs
    obtain ⟨t, ht, hts⟩ := List.mem_flatMap.mp hs
    exact ⟨t, ht, s, hts, hk, rfl⟩
  · rintro ⟨t, ht, s, hts, hk, rfl⟩
    exact ⟨s, List.mem_filter.mpr ⟨List.mem_flatMap.mpr ⟨t, ht, hts⟩, hk⟩, rfl⟩

@[simp] lemma generations_nil : generations keep seen [] = [] := by rw [generations]

lemma flatten_generations (keep : Ty → Bool) (seen : List String) (level : List Ty) :
    (generations keep seen level).flatten = level ++
      (generations keep (seen ++ (nextGeneration keep seen level).map name)
        (nextGeneration keep seen level)).flatten := by
  cases level with
  | nil => simp [nextGeneration, unseen]
  | cons t ts => rw [generations, List.flatten_cons]

lemma mem_generations_of_mem {s : Ty} (h : s ∈ level) :
    s ∈ (generations keep seen level).flatten := by
  rw [flatten_generations]
  exact List.mem_append_left _ h

/-- **Soundness** of the search: it meets only handles of the hierarchy. -/
lemma reaches_of_mem_generations {s : Ty} (h : s ∈ (generations keep seen level).flatten) :
    ∃ t ∈ level, Reaches t s := by
  induction seen, level using generations.induct keep with
  | case1 seen => simp at h
  | case2 seen t ts next ih =>
    rw [flatten_generations, List.mem_append] at h
    rcases h with h | h
    · exact ⟨s, h, .refl⟩
    · obtain ⟨u, hu, hus⟩ := ih h
      obtain ⟨⟨t', ht', htu⟩, -⟩ := mem_nextGeneration hu
      exact ⟨t', ht', .head htu hus⟩

lemma flatten_generations_eq (keep : Ty → Bool) (seen : List String) (level : List Ty) :
    (generations keep seen level).flatten = level ++
      unseen seen (((generations keep seen level).flatten.flatMap supers).filter keep) := by
  induction seen, level using generations.induct keep with
  | case1 seen => simp [unseen]
  | case2 seen t ts next ih =>
    rw [flatten_generations, List.flatMap_append, List.filter_append, unseen_append]
    congr 1

/-! ### The closure of a type -/

lemma self_mem_closure (keep : Ty → Bool) (t : Ty) : t ∈ t.closure keep :=
  mem_generations_of_mem List.mem_cons_self

lemma reaches_of_mem_closure {t s : Ty} (h : s ∈ t.closure keep) : Reaches t s := by
  obtain ⟨u, hu, hus⟩ := reaches_of_mem_generations h
  rw [List.mem_singleton] at hu
  exact hu ▸ hus

/-- **Each name stands where it is discovered first**: the closure of a type holds the type and
what the types in the closure declare, in this order, without repetitions. -/
lemma closure_eq_distinct (keep : Ty → Bool) (t : Ty) :
    t.closure keep = distinct (t :: ((t.closure keep).flatMap supers).filter keep) :=
  flatten_generations_eq keep [t.name] [t]

lemma nodup_names_closure (keep : Ty → Bool) (t : Ty) : ((t.closure keep).map name).Nodup := by
  rw [closure_eq_distinct]
  exact nodup_names_distinct _

/-- **Completeness** of the search, step by step: it meets the names of the supertypes of what it
meets, and but for the type itself nothing else. -/
lemma mem_names_closure_iff {t : Ty} {n : String} : n ∈ (t.closure keep).map name ↔
    n = t.name ∨ ∃ s ∈ t.closure keep, ∃ p, Declares s p ∧ keep p = true ∧ p.name = n := by
  rw [closure_eq_distinct, mem_names_distinct, ← closure_eq_distinct, List.map_cons,
    List.mem_cons, mem_map_name]
  refine or_congr_right ⟨?_, ?_⟩
  · rintro ⟨p, hp, rfl⟩
    obtain ⟨hp, hk⟩ := List.mem_filter.mp hp
    obtain ⟨s, hs, hsp⟩ := List.mem_flatMap.mp hp
    exact ⟨s, hs, p, hsp, hk, rfl⟩
  · rintro ⟨s, hs, p, hsp, hk, rfl⟩
    exact ⟨p, List.mem_filter.mpr ⟨List.mem_flatMap.mpr ⟨s, hs, hsp⟩, hk⟩, rfl⟩

lemma name_mem_closure_of_declares {t s p : Ty} (h : s ∈ t.closure keep) (hp : Declares s p)
    (hk : keep p = true) : p.name ∈ (t.closure keep).map name :=
  mem_names_closure_iff.mpr (Or.inr ⟨s, h, p, hp, hk, rfl⟩)

lemma isAssignableFrom_iff {a b : Ty} :
    a.isAssignableFrom b = true ↔
      a.isObject = true ∨ a.name ∈ (b.closure fun _ => true).map name := by
  simp [isAssignableFrom, beq_iff]

lemma isAssignableFrom_self (a : Ty) : a.isAssignableFrom a = true :=
  isAssignableFrom_iff.mpr (Or.inr (List.mem_map_of_mem (self_mem_closure _ a)))

lemma isAssignableFrom_congr {a a' : Ty} (h : a.name = a'.name) (b : Ty) :
    a.isAssignableFrom b = a'.isAssignableFrom b := by
  rw [Bool.eq_iff_iff, isAssignableFrom_iff, isAssignableFrom_iff, isObject_iff, isObject_iff, h]

lemma exists_reaches_of_isAssignableFrom {a b : Ty} (h : a.isAssignableFrom b = true)
    (ha : a.isObject = false) : ∃ s, Reaches b s ∧ s.name = a.name := by
  rcases isAssignableFrom_iff.mp h with ho | hn
  · rw [ha] at ho
    exact absurd ho (by decide)
  · obtain ⟨s, hs, hn⟩ := mem_map_name.mp hn
    exact ⟨s, reaches_of_mem_closure hs, hn⟩

/-! ### Transitivity

The search above `t` expands a name at the handle it meets first, which need not be the handle
that is met above `c`. So what is above `c` is above `t`, if `c` is, as far as the handles of
`t` declare what those of `c` declare. -/

/-- Where the hierarchies of `t` and `c` share a name, `t` goes on to all that `c` goes on to. -/
def Follows (t c : Ty) : Prop :=
  ∀ u, Reaches c u → ∀ s, Reaches t s → s.name = u.name → u.supers.map name ⊆ s.supers.map name

lemma isAssignableFrom_of_reaches {t c u : Ty} (hf : t.Follows c) (hb : c.RootBare)
    (hct : c.isAssignableFrom t = true) (hu : Reaches c u) : u.isAssignableFrom t = true := by
  rcases isAssignableFrom_iff.mp hct with ho | hct
  · -- above the root there is nothing but the root
    rcases Relation.ReflTransGen.cases_head hu with rfl | ⟨s, hs, -⟩
    · exact isAssignableFrom_iff.mpr (Or.inl ho)
    · rw [Declares, hb c .refl ho] at hs
      exact absurd hs List.not_mem_nil
  · refine isAssignableFrom_iff.mpr (Or.inr ?_)
    induction hu with
    | refl => exact hct
    | tail hcu hup ih =>
      obtain ⟨s, hs, hsu⟩ := mem_map_name.mp ih
      have hp := hf _ hcu s (reaches_of_mem_closure hs) hsu (List.mem_map_of_mem hup)
      obtain ⟨p, hsp, hpn⟩ := mem_map_name.mp hp
      rw [← hpn]
      exact name_mem_closure_of_declares hs hsp rfl

/-- **Transitivity** through a type whose hierarchy the lower type follows. -/
lemma isAssignableFrom_trans {a c t : Ty} (hf : t.Follows c) (hb : c.RootBare)
    (hac : a.isAssignableFrom c = true) (hct : c.isAssignableFrom t = true) :
    a.isAssignableFrom t = true := by
  rcases Bool.eq_false_or_eq_true a.isObject with ho | ho
  · exact isAssignableFrom_iff.mpr (Or.inl ho)
  · obtain ⟨s, hs, hn⟩ := exists_reaches_of_isAssignableFrom hac ho
    rw [← isAssignableFrom_congr hn]
    exact isAssignableFrom_of_reaches hf hb hct hs

/-! ### Ancestors and assignability

The ancestors pass over handles of the root while the test of assignability does not. Both
searches meet the same handles otherwise, since a bare root leads nowhere. -/

def notRoot (t : Ty) : Bool := !t.isObject

lemma notRoot_iff {t : Ty} : t.notRoot = true ↔ t.name ≠ object.name := by
  rw [notRoot, Bool.not_eq_true', Bool.eq_false_iff, Ne, isObject_iff]

lemma mem_names_filter_notRoot {n : String} {ts : List Ty} (hn : n ≠ object.name) :
    n ∈ (ts.filter notRoot).map name ↔ n ∈ ts.map name := by
  simp only [mem_map_name, List.mem_filter, notRoot_iff]
  constructor
  · rintro ⟨t, ⟨ht, -⟩, rfl⟩
    exact ⟨t, ht, rfl⟩
  · rintro ⟨t, ht, rfl⟩
    exact ⟨t, ⟨ht, hn⟩, rfl⟩

def SameBelowRoot (seen' seen : List String) : Prop :=
  ∀ n, n ≠ object.name → (n ∈ seen' ↔ n ∈ seen)

lemma SameBelowRoot.append {seen' seen ns' ns : List String} (h : SameBelowRoot seen' seen)
    (hn : SameBelowRoot ns' ns) : SameBelowRoot (seen' ++ ns') (seen ++ ns) := by
  intro n hr
  rw [List.mem_append, List.mem_append, h n hr, hn n hr]

lemma SameBelowRoot.cons {seen' seen : List String} (h : SameBelowRoot seen' seen) (m : String) :
    SameBelowRoot (m :: seen') (m :: seen) := by
  intro n hr
  rw [List.mem_cons, List.mem_cons, h n hr]

lemma unseen_filter_notRoot {seen' seen : List String} (h : SameBelowRoot seen' seen)
    (ts : List Ty) : unseen seen' (ts.filter notRoot) = (unseen seen ts).filter notRoot := by
  induction ts generalizing seen' seen with
  | nil => rfl
  | cons t ts ih =>
    by_cases ht : t.notRoot = true
    · rw [List.filter_cons_of_pos ht, unseen, unseen]
      by_cases hs : t.name ∈ seen
      · rw [if_pos hs, if_pos ((h _ (notRoot_iff.mp ht)).mpr hs), ih h]
      · rw [if_neg hs, if_neg (mt (h _ (notRoot_iff.mp ht)).mp hs), List.filter_cons_of_pos ht,
          ih (h.cons t.name)]
    · rw [List.filter_cons_of_neg ht, unseen]
      by_cases hs : t.name ∈ seen
      · rw [if_pos hs, ih h]
      · -- the root is new: it is dropped, and only its name is kept in mind
        have hr : t.name = object.name := by
          by_contra hc
          exact ht (notRoot_iff.mpr hc)
        rw [if_neg hs, List.filter_cons_of_neg ht]
        refine ih fun n hn => ?_
        rw [List.mem_cons, h n hn, hr]
        exact ⟨Or.inr, fun hc => hc.resolve_left hn⟩

/-- Handles of a bare root add nothing to the next generation. -/
lemma flatMap_supers_filter_notRoot (hb : ∀ t ∈ level, RootBare t) :
    (level.filter notRoot).flatMap supers = level.flatMap supers := by
  induction level with
  | nil => rfl
  | cons t ts ih =>
    have ih := ih fun s hs => hb s (List.mem_cons_of_mem _ hs)
    by_cases ht : t.notRoot = true
    · rw [List.filter_cons_of_pos ht, List.flatMap_cons, List.flatMap_cons, ih]
    · have hbare : t.supers = [] :=
        hb t List.mem_cons_self t .refl (by simpa [notRoot] using ht)
      rw [List.filter_cons_of_neg ht, List.flatMap_cons, hbare, List.nil_append, ih]

lemma nextGeneration_filter_notRoot {seen' : List String} (h : SameBelowRoot seen' seen)
    (hb : ∀ t ∈ level, RootBare t) :
    nextGeneration notRoot seen' (level.filter notRoot) =
      (nextGeneration (fun _ => true) seen level).filter notRoot := by
  have hall : (level.flatMap supers).filter (fun _ => true) = level.flatMap supers :=
    List.filter_eq_self.mpr fun _ _ => rfl
  rw [nextGeneration, nextGeneration, flatMap_supers_filter_notRoot hb,
    unseen_filter_notRoot h, hall]

lemma rootBare_of_mem_nextGeneration (hb : ∀ t ∈ level, RootBare t) :
    ∀ s ∈ nextGeneration keep seen level, RootBare s := by
  intro s hs
  obtain ⟨⟨t, ht, hts⟩, -⟩ := mem_nextGeneration hs
  exact Reaches.rootBare (.single hts) (hb t ht)

/-- Passing over the root, the search meets what it meets otherwise, less the root. -/
lemma flatten_generations_notRoot (hb : ∀ t ∈ level, RootBare t) :
    ∀ seen', SameBelowRoot seen' seen →
      (generations notRoot seen' (level.filter notRoot)).flatten =
        (generations (fun _ => true) seen level).flatten.filter notRoot := by
  induction seen, level using generations.induct (fun _ => true) with
  | case1 seen => simp
  | case2 seen t ts next ih =>
    intro seen' h
    have hnext := nextGeneration_filter_notRoot h hb
    rw [flatten_generations notRoot, flatten_generations fun _ => true, List.filter_append, hnext]
    congr 1
    exact ih (rootBare_of_mem_nextGeneration hb) _
      (h.append fun n hn => mem_names_filter_notRoot hn)

lemma closure_notRoot {t : Ty} (ht : t.notRoot = true) (hb : RootBare t) :
    t.closure notRoot = (t.closure fun _ => true).filter notRoot := by
  have hlevel : ∀ s ∈ [t], RootBare s := by simpa using hb
  have h := flatten_generations_notRoot hlevel [t.name] fun _ _ => Iff.rfl
  rwa [List.filter_cons_of_pos ht, List.filter_nil] at h

lemma closure_of_supers_eq_nil {t : Ty} (h : t.supers = []) : t.closure keep = [t] := by
  rw [closure, flatten_generations, nextGeneration, List.flatMap_singleton, h]
  simp [unseen]

/-- **The ancestors of a type are what its values are assignable to.** -/
lemma isAssignableFrom_iff_mem_ancestors {a t : Ty} (hb : RootBare t) :
    a.isAssignableFrom t = true ↔ a.name ∈ t.ancestors.map name := by
  have hanc : t.ancestors = t.closure notRoot ++ if t.isObject then [] else [object] := rfl
  rw [isAssignableFrom_iff, isObject_iff, hanc, List.map_append, List.mem_append]
  by_cases ht : t.isObject = true
  · rw [closure_of_supers_eq_nil (hb t .refl ht), closure_of_supers_eq_nil (hb t .refl ht),
      if_pos ht]
    have := isObject_iff.mp ht
    simp [this]
  · have hroot : t.notRoot = true := by simpa [notRoot] using ht
    rw [closure_notRoot hroot hb, if_neg ht]
    by_cases ha : a.name = object.name
    · simp [ha]
    · rw [mem_names_filter_notRoot ha]
      simp [ha]

/-! ### Families in which a name means one thing -/

/-- A family of types, closed under supertypes, whose handles agree on what a name stands for.
It does not matter then at which handle the search expands a name. -/
structure Coherent (F : Set Ty) : Prop where
  supers : ∀ t ∈ F, ∀ s ∈ t.supers, s ∈ F
  agree : ∀ a ∈ F, ∀ b ∈ F, a.name = b.name → a.supers.map name = b.supers.map name
  bare : ∀ t ∈ F, t.isObject = true → t.supers = []

namespace Coherent

variable {F : Set Ty} {a c t : Ty}

lemma mem_of_reaches (hF : Coherent F) (ht : t ∈ F) {s : Ty} (h : t.Reaches s) : s ∈ F := by
  induction h with
  | refl => exact ht
  | tail _ hs ih => exact hF.supers _ ih _ hs

lemma rootBare (hF : Coherent F) (ht : t ∈ F) : t.RootBare :=
  fun s hs => hF.bare s (hF.mem_of_reaches ht hs)

lemma follows (hF : Coherent F) (ht : t ∈ F) (hc : c ∈ F) : t.Follows c := by
  intro u hu s hs hn
  rw [hF.agree s (hF.mem_of_reaches ht hs) u (hF.mem_of_reaches hc hu) hn]
  exact List.Subset.refl _

lemma isAssignableFrom_trans (hF : Coherent F) (ht : t ∈ F) (hc : c ∈ F)
    (hac : a.isAssignableFrom c = true) (hct : c.isAssignableFrom t = true) :
    a.isAssignableFrom t = true :=
  Ty.isAssignableFrom_trans (hF.follows ht hc) (hF.rootBare hc) hac hct

end Coherent

end ForeignCollections.Ty
