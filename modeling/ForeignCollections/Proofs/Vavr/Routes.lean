import ForeignCollections.Proofs.Vavr.Installed
import ForeignCollections.Proofs.Vavr.Shapes

/-!
The conversions between canonical types. Above these stands what the catalogues put there, so
that dispatch finds the rule for a container by what it is: a native list, set or map goes into
the family of its own kind, and a container of one family is unwrapped to the native type of it.
-/

namespace ForeignCollections.Vavr

open Ty (Canonical)

/-- A native type of the kind of a family, and of no other kind. -/
def Family.OnlyNative : Family → Ty → Prop
  | sequence, t =>
    Native.list.isAssignableFrom t = true ∧ Native.map.isAssignableFrom t = false
  | set, t =>
    Native.set.isAssignableFrom t = true ∧ Native.list.isAssignableFrom t = false ∧
      Native.map.isAssignableFrom t = false
  | map, t =>
    Native.map.isAssignableFrom t = true ∧ Native.collection.isAssignableFrom t = false

variable {r : Registry} {v : Value} {f g : Family} {source target : Ty}

/-! ### Membership in the catalogues -/

lemma traversable_mem_catalogue : traversable ∈ catalogue := all_subset_catalogue List.mem_cons_self

lemma base_mem_all (f : Family) : f.base ∈ all := by
  cases f <;> simp [Family.base, all]

lemma fallback_mem_catalogue (f : Family) : f.fallback ∈ catalogue := by
  refine all_subset_catalogue ?_
  cases f <;> simp [Family.fallback, all]

lemma collectionsAndMap_subset : Native.collectionsAndMap ⊆ Native.all := by
  simp [Native.collectionsAndMap, Native.all]

lemma natives_subset (f : Family) : f.natives ⊆ Native.all := by
  cases f <;> simp [Family.natives, Native.all]

lemma native_mem_all (f : Family) (t : Ty) : f.native t ∈ Native.all :=
  natives_subset f (f.native_mem t)

lemma not_traversable_native (f : Family) (t : Ty) :
    traversable.isAssignableFrom (f.native t) = false :=
  not_isAssignableFrom_native List.mem_cons_self (native_mem_all f t)

/-! ### Above a canonical type -/

lemma traversable_of_only (hc : target.Canonical) (ht : f.Only target) :
    traversable.isAssignableFrom target = true := by
  have hb : traversable.isAssignableFrom f.base = true := by cases f <;> cbv
  exact hc.isAssignableFrom_trans (all_subset_catalogue (base_mem_all f)) hb ht.base

lemma collection_of_below {u : Ty} (hu : u = Native.list ∨ u = Native.set) (hc : source.Canonical)
    (h : u.isAssignableFrom source = true) : Native.collection.isAssignableFrom source = true := by
  rcases hu with rfl | rfl <;>
    exact hc.isAssignableFrom_trans (native_subset_catalogue (by simp [Native.all])) (by cbv) h

lemma only_fallback (f : Family) : f.Only f.fallback := by
  cases f <;> exact ⟨by cbv, by cbv, by cbv⟩

lemma traversable_of_fallback (f : Family) :
    traversable.isAssignableFrom f.fallback = true :=
  traversable_of_only (Ty.canonical_of_mem_catalogue (fallback_mem_catalogue f)) (only_fallback f)

lemma only_constructible (ht : f.Only target) : f.Only (constructible target f.fallback) := by
  unfold constructible
  split
  · exact only_fallback f
  · exact ht

lemma canonical_constructible (hc : target.Canonical) :
    (constructible target f.fallback).Canonical := by
  unfold constructible
  split
  · exact Ty.canonical_of_mem_catalogue (fallback_mem_catalogue f)
  · exact hc

/-! ### Native containers -/

lemma nativeFamily_of_onlyNative (hc : source.Canonical) (hn : f.OnlyNative source) :
    nativeFamily source = some f := by
  cases f with
  | sequence => simp [nativeFamily, hn.1]
  | set => simp [nativeFamily, hn.1, hn.2.1]
  | map =>
    have hl := mt (collection_of_below (.inl rfl) hc) (Bool.eq_false_iff.mp hn.2)
    have hs := mt (collection_of_below (.inr rfl) hc) (Bool.eq_false_iff.mp hn.2)
    simp [nativeFamily, hn.1, hl, hs]

lemma collection_or_map (hc : source.Canonical) (hn : f.OnlyNative source) :
    source.isCollection = true ∨ source.isMap = true := by
  cases f with
  | sequence => exact Or.inl (collection_of_below (.inl rfl) hc hn.1)
  | set => exact Or.inl (collection_of_below (.inr rfl) hc hn.1)
  | map => exact Or.inr hn.1

lemma accepts_of_only (hn : f.OnlyNative source) (hg : g.Only target)
    (hfg : f = .map ↔ g = .map) : fromNative.accepts source target = true := by
  have hmap : f ≠ .map → map.isAssignableFrom target = false := fun hf =>
    Bool.eq_false_iff.mpr fun h => hf (hfg.mpr ((hg.base_iff .map).mp h).symm)
  cases f with
  | sequence => exact accepts_collection hn.2 (hmap (by decide))
  | set => exact accepts_collection hn.2.2 (hmap (by decide))
  | map =>
    obtain rfl := hfg.mp rfl
    exact accepts_map hn.2 hg.base

lemma accepts_traversable (source : Ty) : fromNative.accepts source traversable = true := by
  rw [accepts_fromNative]
  exact ⟨fun _ => by cbv, fun _ => Or.inr rfl⟩

/-- Between canonical types, dispatch finds the rule into the family for each native collection or
map that it accepts. -/
lemma select?_into (hr : Registry.build Cli.registrars = .ok r) (hcs : source.Canonical)
    (htrav : traversable.isAssignableFrom source = false)
    (hn : source.isCollection = true ∨ source.isMap = true) (hct : target.Canonical)
    (ht : traversable.isAssignableFrom target = true)
    (hacc : fromNative.accepts source target = true) :
    r.ruleBook.select? source target = some fromNative := by
  refine select?_fromNative hr htrav ?_ (hct.isAssignableFrom_iff_mem_ancestors.mp ht) hacc
  rw [← hcs.isAssignableFrom_iff_mem_ancestors, ← hcs.isAssignableFrom_iff_mem_ancestors]
  exact hn

section Into

variable (hr : Registry.build Cli.registrars = .ok r) (hs : v.shape = some f)
  (hcs : v.runtimeType.Canonical) (htrav : traversable.isAssignableFrom v.runtimeType = false)
  (hn : f.OnlyNative v.runtimeType)

include hr hs hcs htrav hn

lemma convert_of_accepts (hc : target.Canonical) (ht : traversable.isAssignableFrom target = true)
    (ha : target.isAssignableFrom v.runtimeType = false)
    (hacc : fromNative.accepts v.runtimeType target = true) :
    r.ruleBook.convert v target = wrapped v v.runtimeType target :=
  RuleBook.convert_of_select? (Value.isNull_of_shape hs) ha <|
    select?_into hr hcs htrav (collection_or_map hcs hn) hc ht hacc

/-- **Into a family**: the container that the target stands for, under the type asked for if
that can be built. -/
lemma convert_into (hc : target.Canonical) (hg : g.Only target) (hfg : f = .map ↔ g = .map)
    (ha : target.isAssignableFrom v.runtimeType = false) :
    r.ruleBook.convert v target = g.build v target (constructible target g.fallback) := by
  rw [convert_of_accepts hr hs hcs htrav hn hc (traversable_of_only hc hg) ha
    (accepts_of_only hn hg hfg)]
  exact wrapped_of_only (Value.isContainer_of_shape hs) hg

end Into

section Proper

variable {v : Value.Proper} (hr : Registry.build Cli.registrars = .ok r)
  (hs : v.value.shape = some f) (hcs : v.value.runtimeType.Canonical)
  (htrav : traversable.isAssignableFrom v.value.runtimeType = false)
  (hn : f.OnlyNative v.value.runtimeType)

include hr hs hcs htrav hn

lemma convert_of_only (hc : target.Canonical) (ht : f.Only target)
    (ha : target.isAssignableFrom v.value.runtimeType = false) :
    r.ruleBook.convert v target = .ok (v.withType (constructible target f.fallback)) := by
  rw [convert_into hr hs hcs htrav hn hc ht Iff.rfl ha]
  exact Family.build_of_shape hs _ _

lemma convert_to_traversable : r.ruleBook.convert v traversable = .ok (v.withType f.fallback) := by
  have hc := Ty.canonical_of_mem_catalogue traversable_mem_catalogue
  rw [convert_of_accepts hr hs hcs htrav hn hc (Ty.isAssignableFrom_self _) htrav
    (accepts_traversable _), wrapped_traversable (Value.isContainer_of_shape hs),
    nativeFamily_of_onlyNative hcs hn]
  exact Family.build_of_shape hs _ _

end Proper

/-! ### Vavr containers -/

/-- **Out of the family**: whichever native abstraction is asked for, the value is unwrapped. -/
lemma convert_out (hr : Registry.build Cli.registrars = .ok r) (hc : v.runtimeType.Canonical)
    (hs : traversable.isAssignableFrom v.runtimeType = true)
    (ht : target ∈ Native.collectionsAndMap) (hn : v.isNull = false)
    (ha : target.isAssignableFrom v.runtimeType = false) :
    r.ruleBook.convert v target = unwrapped v := by
  have htn : target ∈ Native.all := collectionsAndMap_subset ht
  have hct := Ty.canonical_of_mem_catalogue (native_subset_catalogue htn)
  have hnot : traversable.name ∉ target.ancestors.map Ty.name := by
    rw [← hct.isAssignableFrom_iff_mem_ancestors, not_isAssignableFrom_native _ htn]
    · decide
    · exact List.mem_cons_self
  exact RuleBook.convert_of_select? hn ha <|
    select?_toNative hr hs (hc.isAssignableFrom_iff_mem_ancestors.mp hs) ht hnot

lemma unwrap_of_only (hr : Registry.build Cli.registrars = .ok r) (hs : v.shape = some f)
    (hc : v.runtimeType.Canonical) (ho : f.Only v.runtimeType) :
    r.unwrap v = .ok (v.withType (f.native v.runtimeType)) := by
  rw [unwrap_eq hr, if_pos (traversable_of_only hc ho), unwrapped_of_shape hs,
    if_pos (familyOf_of_only ho)]

end ForeignCollections.Vavr
