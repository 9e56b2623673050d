import ForeignCollections.Proofs.Ty.Distinct
import ForeignCollections.Proofs.Ty.Reachability
import ForeignCollections.Registry.Basic

/-!
Which types a list of candidates takes. Whether a type is a candidate, and whether it is
assignable to one, depends on the names of the candidates only; their order and their handles
decide no more than which candidate is found. The first fit stays the first one whatever is
added behind it.
-/

namespace ForeignCollections.Candidates

variable {c c' : Candidates} {base b t : Ty} {ts us : List Ty}

lemma mem_names_of {n : String} :
    n ∈ (of base ts).types.map Ty.name ↔ n = base.name ∨ n ∈ ts.map Ty.name := by
  rw [of, Ty.mem_names_distinct, List.map_cons, List.mem_cons]

lemma sameNames_of (h : Ty.SameNames ts us) :
    Ty.SameNames (of base ts).types (of base us).types := by
  intro n
  rw [mem_names_of, mem_names_of, h]

lemma has_iff : c.has t = true ↔ t.name ∈ c.types.map Ty.name := Ty.any_beq_iff

lemma has_of_iff : (of base ts).has t = true ↔ t.name = base.name ∨ t.name ∈ ts.map Ty.name := by
  rw [has_iff, mem_names_of]

lemma has_of_mem (ht : t ∈ ts) : (of base ts).has t = true :=
  has_of_iff.mpr (Or.inr (List.mem_map_of_mem ht))

lemma has_mono (h : c.types.map Ty.name ⊆ c'.types.map Ty.name) (ht : c.has t = true) :
    c'.has t = true :=
  has_iff.mpr (h (has_iff.mp ht))

lemma covers_iff : c.covers t = true ↔ ∃ u ∈ c.types, u.isAssignableFrom t = true :=
  List.any_eq_true

lemma covers_of_mem_names (hb : b.name ∈ c.types.map Ty.name)
    (h : b.isAssignableFrom t = true) : c.covers t = true := by
  obtain ⟨u, hu, hn⟩ := List.mem_map.mp hb
  exact covers_iff.mpr ⟨u, hu, Ty.isAssignableFrom_congr hn t ▸ h⟩

/-- Assignability goes by the name of the upper type, so only the names of the candidates
count. -/
lemma covers_mono (h : c.types.map Ty.name ⊆ c'.types.map Ty.name) (ht : c.covers t = true) :
    c'.covers t = true := by
  obtain ⟨u, hu, hut⟩ := covers_iff.mp ht
  exact covers_of_mem_names (h (List.mem_map_of_mem hu)) hut

lemma covers_of_has (h : c.has t = true) : c.covers t = true :=
  covers_of_mem_names (has_iff.mp h) (Ty.isAssignableFrom_self t)

lemma has_congr (h : Ty.SameNames c.types c'.types) (t : Ty) : c.has t = c'.has t := h.any_beq t

lemma covers_congr (h : Ty.SameNames c.types c'.types) (t : Ty) : c.covers t = c'.covers t :=
  Bool.eq_iff_iff.mpr ⟨covers_mono fun n => (h n).mp, covers_mono fun n => (h n).mpr⟩

/-! ### The candidate that is found -/

lemma superType_eq_ok_iff : c.superType t = .ok b ↔ c.find? t = some b := by
  unfold superType
  cases c.find? t <;> simp

lemma isOk_superType (c : Candidates) (t : Ty) : (c.superType t).isOk = c.covers t := by
  have hcovers : c.covers t = (c.find? t).isSome := by
    rw [Bool.eq_iff_iff, covers_iff, find?, List.find?_isSome]
  rw [hcovers, superType]
  cases c.find? t <;> rfl

lemma find?_eq_some_iff : c.find? t = some b ↔ b.isAssignableFrom t = true ∧
    ∃ before after, c.types = before ++ b :: after ∧
      ∀ u ∈ before, u.isAssignableFrom t = false := by
  simp only [find?, List.find?_eq_some_iff_append, Bool.not_eq_true']

lemma superType_of_isPrefix (h : c.types <+: c'.types) (ht : c.superType t = .ok b) :
    c'.superType t = .ok b := by
  rw [superType_eq_ok_iff] at ht ⊢
  exact h.find?_eq_some ht

lemma prefix_of (h : ts <+: us) : (of base ts).types <+: (of base us).types :=
  Ty.prefix_distinct ((List.prefix_cons_inj base).mpr h)

end ForeignCollections.Candidates
