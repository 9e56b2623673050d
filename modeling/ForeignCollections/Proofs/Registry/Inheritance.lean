import ForeignCollections.Proofs.Registry.Candidates
import ForeignCollections.Proofs.Ty.Reachability
import ForeignCollections.Proofs.Vavr.Installed
import ForeignCollections.Registry.Report

/-!
Classification over a coherent family of types. What counts as a map or as a collection is
inherited by whatever is assignable to it; and the base that a map type counts as is a base
itself, the first one above the type, and counts as itself.
-/

namespace ForeignCollections

namespace Candidates

variable {F : Set Ty} {c : Candidates} {t sub b : Ty}

lemma covers_of_isAssignableFrom (hF : Ty.Coherent F) (ht : t ∈ F) (hsub : sub ∈ F)
    (h : t.isAssignableFrom sub = true) (hc : c.covers t = true) : c.covers sub = true := by
  obtain ⟨u, hu, hut⟩ := covers_iff.mp hc
  exact covers_iff.mpr ⟨u, hu, hF.isAssignableFrom_trans hsub ht hut h⟩

/-- What is found for a type is found for itself: a candidate above it that comes earlier would
have been found for the type. -/
lemma find?_self (hF : Ty.Coherent F) (ht : t ∈ F) (hb : b ∈ F) (h : c.find? t = some b) :
    c.find? b = some b := by
  obtain ⟨hbt, before, after, htypes, hbefore⟩ := find?_eq_some_iff.mp h
  refine find?_eq_some_iff.mpr ⟨Ty.isAssignableFrom_self b, before, after, htypes, ?_⟩
  intro u hu
  rw [Bool.eq_false_iff]
  intro hub
  exact Bool.false_ne_true ((hbefore u hu).symm.trans (hF.isAssignableFrom_trans ht hb hub hbt))

end Candidates

namespace Registry

/-- As a map, `t` counts as `b`: a base above `t`, with none above `t` before it, that counts as
itself. -/
structure CountsAs (r : Registry) (t b : Ty) : Prop where
  isMapBaseType : r.isMapBaseType b = true
  isAssignableFrom : b.isAssignableFrom t = true
  first : ∃ before after, r.mapCandidates.types = before ++ b :: after ∧
    ∀ u ∈ before, u.isAssignableFrom t = false
  mapBaseType : r.mapBaseType b = .ok b

variable {F : Set Ty} {r : Registry} {t b : Ty}

lemma countsAs_of_mapBaseType (hF : Ty.Coherent F) (hnative : Native.map ∈ F)
    (hcustom : ∀ u ∈ r.customTypes, u ∈ F) (ht : t ∈ F) (h : r.mapBaseType t = .ok b) :
    r.CountsAs t b := by
  have hfound := Candidates.superType_eq_ok_iff.mp h
  have hcandidate := List.mem_of_find?_eq_some hfound
  obtain ⟨hbt, hfirst⟩ := Candidates.find?_eq_some_iff.mp hfound
  have hb : b ∈ F := by
    rcases List.mem_cons.mp (Ty.mem_of_mem_distinct hcandidate) with rfl | hb
    · exact hnative
    · exact hcustom b (mem_customTypes_iff.mpr (Or.inr hb))
  exact ⟨Candidates.has_iff.mpr (List.mem_map_of_mem hcandidate), hbt, hfirst,
    Candidates.superType_eq_ok_iff.mpr (Candidates.find?_self hF ht hb hfound)⟩

lemma isOk_mapBaseType (r : Registry) (t : Ty) : (r.mapBaseType t).isOk = r.isMap t :=
  r.mapCandidates.isOk_superType t

lemma isMap_iff_mapBaseType : r.isMap t = true ↔ ∃ b, r.mapBaseType t = .ok b := by
  rw [← isOk_mapBaseType]
  cases r.mapBaseType t <;> simp [Except.isOk, Except.toBool]

lemma mapBaseType_classify (r : Registry) (t : Ty) :
    (r.classify t).mapBaseType = (r.mapBaseType t).toOption.map (·.name) := by
  rw [classify, ← isOk_mapBaseType]
  cases r.mapBaseType t <;> rfl

lemma isMap_iff_mapBaseType_classify :
    r.isMap t = true ↔ ∃ n, (r.classify t).mapBaseType = some n := by
  rw [mapBaseType_classify, ← isOk_mapBaseType]
  cases r.mapBaseType t <;> simp [Except.isOk, Except.toBool, Except.toOption]

/-- **Classification is inherited and comes to rest.** Over a coherent family of types that holds
the native ones and all that is registered, what is below a map or a collection is one, too; to
be a map is to have a map base; and this base is the first one above the type and its own base. -/
theorem classification_inherited (r : Registry) (hF : Ty.Coherent F)
    (hnative : ∀ t ∈ Native.all, t ∈ F) (hcustom : ∀ t ∈ r.customTypes, t ∈ F) :
    (∀ t ∈ F, ∀ sub ∈ F, t.isAssignableFrom sub = true →
      (r.isMap t = true → r.isMap sub = true) ∧
      (r.isCollection t = true → r.isCollection sub = true)) ∧
    (∀ t, (r.isMap t = true ↔ ∃ b, r.mapBaseType t = .ok b) ∧
      (r.isMap t = true ↔ ∃ n, (r.classify t).mapBaseType = some n)) ∧
    ∀ t ∈ F, ∀ b, r.mapBaseType t = .ok b → r.CountsAs t b := by
  have hmap : Native.map ∈ F := hnative _ (by simp [Native.all])
  refine ⟨fun t ht sub hsub h => ⟨?_, ?_⟩, fun t => ?_, fun t ht b => ?_⟩
  · exact Candidates.covers_of_isAssignableFrom hF ht hsub h
  · exact Candidates.covers_of_isAssignableFrom hF ht hsub h
  · exact ⟨isMap_iff_mapBaseType, isMap_iff_mapBaseType_classify⟩
  · exact countsAs_of_mapBaseType hF hmap hcustom ht

/-- A Vavr map that keeps its order is a map, as it is below the Vavr map type, and counts as
that. -/
theorem classification_inherited_linkedHashMap :
    ∃ r, build Cli.registrars = .ok r ∧ r.isMap Vavr.linkedHashMap = true ∧
      r.CountsAs Vavr.linkedHashMap Vavr.map := by
  obtain ⟨r, hr⟩ := Vavr.exists_build
  have hmap : Vavr.map ∈ Vavr.catalogue := Vavr.all_subset_catalogue (by simp [Vavr.all])
  have hlinked : Vavr.linkedHashMap ∈ Vavr.catalogue :=
    Vavr.all_subset_catalogue (by simp [Vavr.all])
  have hcustom : ∀ t ∈ r.customTypes, t ∈ Vavr.catalogue := by
    have heq : r.customTypes = [Vavr.seq, Vavr.set, Vavr.map] := by
      rw [customTypes, Vavr.registrars_eq hr]
      rfl
    have hsub : [Vavr.seq, Vavr.set, Vavr.map] ⊆ Vavr.all := by simp [Vavr.all]
    exact fun t ht => Vavr.all_subset_catalogue (hsub (heq ▸ ht))
  obtain ⟨hinherited, -, hcounts⟩ := classification_inherited r Ty.coherent_catalogue
    (fun t ht => Vavr.native_subset_catalogue ht) hcustom
  -- the only other candidate is the native map type, which is not above a Vavr type
  have hcandidates : r.mapCandidates.types = [Native.map, Vavr.map] := by
    rw [mapCandidates, mapTypes, Vavr.registrars_eq hr]
    rfl
  have hnative : Native.map.isAssignableFrom Vavr.linkedHashMap = false := by cbv
  have hbelow : Vavr.map.isAssignableFrom Vavr.linkedHashMap = true := by cbv
  have hbase : r.mapBaseType Vavr.linkedHashMap = .ok Vavr.map := by
    rw [mapBaseType, Candidates.superType_eq_ok_iff, Candidates.find?, hcandidates]
    simp [hnative, hbelow]
  have hisMap : r.isMap Vavr.map = true := by
    refine Candidates.covers_of_has (Candidates.has_iff.mpr ?_)
    simp [hcandidates]
  exact ⟨r, hr, (hinherited _ hmap _ hlinked hbelow).1 hisMap, hcounts _ hlinked _ hbase⟩

end Registry

end ForeignCollections
