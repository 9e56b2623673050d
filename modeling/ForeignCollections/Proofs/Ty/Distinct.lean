import Mathlib.Data.List.Nodup
import ForeignCollections.Proofs.Entries
import ForeignCollections.Ty.Declare

/-!
Lists of types in which a name occurs once. Of several handles of one name the first stays, so
what is looked up by name in such a list is what is found first in the list it was made from.
-/

namespace ForeignCollections.Ty

open Entries

variable {t : Ty} {ts : List Ty}

def same (a b : Ty) : Bool := a == b

lemma same_iff {a b : Ty} : same a b = true ↔ a.name = b.name := beq_iff

lemma same_self (t : Ty) : same t t = true := beq_refl t

lemma unseen_eq (seen : List String) (ts : List Ty) :
    unseen seen ts = (withoutRepeats same ts).filter fun t => !seen.contains t.name := by
  induction ts generalizing seen with
  | nil => rfl
  | cons t ts ih =>
    rw [unseen, withoutRepeats]
    by_cases ht : t.name ∈ seen
    · -- what repeats `t` has been seen, too
      rw [if_pos ht, ih, List.filter_cons_of_neg (by simpa using ht), List.filter_filter]
      refine List.filter_congr fun u _ => ?_
      by_cases hu : same u t = true
      · simp [same_iff.mp hu, ht]
      · simp [hu]
    · rw [if_neg ht, ih, List.filter_cons_of_pos (by simpa using ht), List.filter_filter]
      congr 1
      refine List.filter_congr fun u _ => ?_
      rw [List.contains_cons, Bool.not_or, Bool.and_comm]
      rfl

lemma mem_append_names_unseen {n : String} {seen : List String} {ts : List Ty} :
    n ∈ seen ++ (unseen seen ts).map name ↔ n ∈ seen ∨ n ∈ ts.map name := by
  rw [List.mem_append, mem_names_unseen]
  by_cases hn : n ∈ seen <;> simp [hn]

lemma unseen_append (seen : List String) (ts us : List Ty) :
    unseen seen (ts ++ us) =
      unseen seen ts ++ unseen (seen ++ (unseen seen ts).map name) us := by
  rw [unseen_eq seen (ts ++ us), withoutRepeats_append, List.filter_append, ← unseen_eq,
    unseen_eq (seen ++ _), List.filter_filter]
  congr 1
  refine List.filter_congr fun u _ => ?_
  have hmem := @mem_append_names_unseen u.name seen ts
  rw [Bool.eq_iff_iff]
  simp only [Bool.and_eq_true, Bool.not_eq_true', List.contains_eq_mem,
    decide_eq_false_iff_not, hmem, not_or, List.any_eq_false, same_iff, List.mem_map, not_exists,
    not_and, @eq_comm _ u.name]

/-- Each name is left at its first place. -/
lemma distinct_eq_withoutRepeats (ts : List Ty) : distinct ts = withoutRepeats same ts := by
  rw [distinct, unseen_eq]
  exact List.filter_eq_self.mpr fun _ _ => rfl

lemma mem_distinct_iff : t ∈ distinct ts ↔ ts.find? (same t) = some t := by
  rw [distinct_eq_withoutRepeats, mem_withoutRepeats_iff same_self]

lemma mem_of_mem_distinct (h : t ∈ distinct ts) : t ∈ ts := (mem_of_mem_unseen h).1

lemma mem_names_distinct {n : String} : n ∈ (distinct ts).map name ↔ n ∈ ts.map name := by
  rw [distinct, mem_names_unseen]
  simp

lemma nodup_distinct (ts : List Ty) : (distinct ts).Nodup :=
  List.Nodup.of_map name (nodup_names_distinct ts)

lemma prefix_distinct {us : List Ty} (h : ts <+: us) : distinct ts <+: distinct us := by
  rw [distinct_eq_withoutRepeats, distinct_eq_withoutRepeats]
  exact prefix_withoutRepeats h

lemma find?_distinct {p : Ty → Bool} (hp : ∀ a b, a.name = b.name → p a = p b) (ts : List Ty) :
    (distinct ts).find? p = ts.find? p := by
  rw [distinct_eq_withoutRepeats]
  exact find?_withoutRepeats (fun a b hab => hp a b (same_iff.mp hab)) ts

lemma any_beq_iff : (ts.any (· == t)) = true ↔ t.name ∈ ts.map name := by
  simp only [List.any_eq_true, beq_iff, List.mem_map]

lemma any_beq_distinct (t : Ty) (ts : List Ty) : (distinct ts).any (· == t) = ts.any (· == t) := by
  rw [Bool.eq_iff_iff, any_beq_iff, any_beq_iff, mem_names_distinct]

/-- The same names occur in both lists, be it at other handles and in another order. -/
def SameNames (ts us : List Ty) : Prop := ∀ n, n ∈ ts.map name ↔ n ∈ us.map name

lemma SameNames.any_beq {us : List Ty} (h : SameNames ts us) (t : Ty) :
    ts.any (· == t) = us.any (· == t) := by
  rw [Bool.eq_iff_iff, any_beq_iff, any_beq_iff, h]

lemma sameNames_distinct_of_perm {us : List Ty} (h : ts.Perm us) :
    SameNames (distinct ts) (distinct us) := by
  intro n
  rw [mem_names_distinct, mem_names_distinct]
  exact (h.map name).mem_iff

lemma find?_same_eq_none_iff : ts.find? (same t) = none ↔ t.name ∉ ts.map name := by
  simp only [List.find?_eq_none, same_iff, List.mem_map, not_exists, not_and,
    @eq_comm _ t.name]

end ForeignCollections.Ty
