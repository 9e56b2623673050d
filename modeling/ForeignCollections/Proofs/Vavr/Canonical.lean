import Mathlib.Data.List.Nodup
import ForeignCollections.Proofs.Ty.Reachability
import ForeignCollections.Vavr.Catalogue

/-!
Types whose hierarchies leave the catalogues alone. Anybody may declare a second handle under
the name of a native or a Vavr type, with other supertypes; a type is canonical if no such handle
stands in its hierarchy. Below a canonical type the catalogues can be relied on: whatever is
assignable to one of their types is assignable to what stands above it.
-/

namespace ForeignCollections

namespace Vavr

/-- The native types and those of the family. -/
def catalogue : List Ty := Native.all ++ all

lemma native_subset_catalogue : Native.all ⊆ catalogue := List.subset_append_left _ _

lemma all_subset_catalogue : all ⊆ catalogue := List.subset_append_right _ _

lemma nodup_names_catalogue : (catalogue.map Ty.name).Nodup := by decide

lemma eq_of_name_eq {c d : Ty} (hc : c ∈ catalogue) (hd : d ∈ catalogue)
    (h : c.name = d.name) : c = d :=
  List.inj_on_of_nodup_map nodup_names_catalogue hc hd h

lemma native_closed : Native.all.flatMap Ty.supers ⊆ Native.all := by
  show [Native.iterable, Native.collection, Native.collection, Native.list, Native.list,
    Native.set, Native.hashSet, Native.set, Native.map, Native.hashMap, Native.map] ⊆ Native.all
  simp [Native.all]

lemma all_closed : all.flatMap Ty.supers ⊆ Native.iterable :: all := by
  show [Native.iterable, traversable, seq, seq, linearSeq, linearSeq, linearSeq, indexedSeq,
    indexedSeq, traversable, set, set, traversable, map, map, traversable] ⊆ _
  simp [all]

lemma catalogue_closed : catalogue.flatMap Ty.supers ⊆ catalogue := by
  rw [catalogue, List.flatMap_append, List.append_subset]
  refine ⟨List.subset_append_of_subset_left _ native_closed, fun s hs => ?_⟩
  rcases List.mem_cons.mp (all_closed hs) with rfl | hs
  · exact native_subset_catalogue (by simp [Native.all])
  · exact all_subset_catalogue hs

lemma not_isAssignableFrom_native {t n : Ty} (ht : t ∈ all) (hn : n ∈ Native.all) :
    t.isAssignableFrom n = false := by
  have htable : (all.all fun t => Native.all.all fun n => !t.isAssignableFrom n) = true := by cbv
  simpa using List.all_eq_true.mp (List.all_eq_true.mp htable t ht) n hn

end Vavr

namespace Ty

open Vavr (catalogue)

/-- Every handle in the hierarchy of `t` that bears a name of the catalogues is the one that
stands there. -/
def Canonical (t : Ty) : Prop :=
  ∀ s, t.Reaches s → ∀ c ∈ catalogue, s.name = c.name → s = c

lemma Canonical.eq {t c : Ty} (ht : t.Canonical) (hc : c ∈ catalogue) (h : t.name = c.name) :
    t = c :=
  ht t .refl c hc h

lemma Canonical.of_supers {t : Ty} (ht : ∀ c ∈ catalogue, t.name = c.name → t = c)
    (hs : ∀ s ∈ t.supers, s.Canonical) : t.Canonical := by
  intro u hu
  rcases Relation.ReflTransGen.cases_head hu with rfl | ⟨s, hts, hsu⟩
  · exact ht
  · exact hs s hts u hsu

lemma canonical_of_mem_catalogue {c : Ty} (hc : c ∈ catalogue) : c.Canonical :=
  fun _ hs _ hd h => Vavr.eq_of_name_eq (hs.mem Vavr.catalogue_closed hc) hd h

lemma canonical_of_supers_subset {t : Ty} (hn : ∀ c ∈ catalogue, t.name ≠ c.name)
    (hs : t.supers ⊆ catalogue) : t.Canonical :=
  .of_supers (fun c hc h => absurd h (hn c hc)) fun _ hm => canonical_of_mem_catalogue (hs hm)

lemma object_mem_catalogue : object ∈ catalogue :=
  Vavr.native_subset_catalogue List.mem_cons_self

lemma Canonical.rootBare {t : Ty} (ht : t.Canonical) : t.RootBare := by
  intro s hs ho
  rw [ht s hs object object_mem_catalogue (isObject_iff.mp ho)]
  rfl

lemma coherent_catalogue : Coherent {t | t ∈ catalogue} where
  supers t ht s hs := Vavr.catalogue_closed (List.mem_flatMap.mpr ⟨t, ht, hs⟩)
  agree a ha b hb h := by rw [Vavr.eq_of_name_eq ha hb h]
  bare t ht ho := (canonical_of_mem_catalogue ht).rootBare t .refl ho

lemma Canonical.isAssignableFrom_iff_mem_ancestors {a t : Ty} (ht : t.Canonical) :
    a.isAssignableFrom t = true ↔ a.name ∈ t.ancestors.map name :=
  Ty.isAssignableFrom_iff_mem_ancestors ht.rootBare

/-- The search above a canonical type meets what is above a type of the catalogues as it stands
there. -/
lemma Canonical.follows {t c : Ty} (ht : t.Canonical) (hc : c ∈ catalogue) : t.Follows c := by
  intro u hu s hs hn
  rw [ht s hs u (hu.mem Vavr.catalogue_closed hc) hn]
  exact List.Subset.refl _

lemma Canonical.isAssignableFrom_trans {a c t : Ty} (ht : t.Canonical) (hc : c ∈ catalogue)
    (hac : a.isAssignableFrom c = true) (hct : c.isAssignableFrom t = true) :
    a.isAssignableFrom t = true :=
  Ty.isAssignableFrom_trans (ht.follows hc) (canonical_of_mem_catalogue hc).rootBare hac hct

lemma Canonical.mem_native {t n : Ty} (ht : t.Canonical) (hn : n ∈ Native.all)
    (h : t.isAssignableFrom n = true) : t ∈ Native.all := by
  have hnative : ∀ c ∈ Native.all, t.name = c.name → t ∈ Native.all := fun c hc hname =>
    ht.eq (Vavr.native_subset_catalogue hc) hname ▸ hc
  rcases Bool.eq_false_or_eq_true t.isObject with ho | ho
  · exact hnative object List.mem_cons_self (isObject_iff.mp ho)
  · obtain ⟨s, hs, hname⟩ := exists_reaches_of_isAssignableFrom h ho
    exact hnative s (hs.mem Vavr.native_closed hn) hname.symm

end Ty

end ForeignCollections
