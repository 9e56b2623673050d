import Mathlib.Tactic.Common
import ForeignCollections.Conversion.RuleBook

/-!
What the operations on a rule book do to the rules of a pair, and what dispatch finds in a book.
A rule that is added stands in front under each of its pairs, once, and leaves the other pairs
alone; the rule that is found is an accepting one, filed under a pair of ancestors.
-/

namespace ForeignCollections

def Rule.declares (r : Rule) (s t : Ty) : Bool := r.pairs.any fun p => p.1 == s && p.2 == t

namespace RuleBook

variable {b : RuleBook} {r : Rule} {s t source target : Ty}

lemma rulesFor_foldl_file (r : Rule) (pairs : List (Ty × Ty)) (b : RuleBook) (s t : Ty) :
    (pairs.foldl (file r) b).rulesFor s t =
      if (pairs.any fun p => p.1 == s && p.2 == t) = true then
        r :: (b.rulesFor s t).filter fun r' => r'.id != r.id
      else b.rulesFor s t := by
  induction pairs generalizing b with
  | nil => rfl
  | cons p ps ih =>
    have hp : (p.1 == s && p.2 == t) = true ↔ p.1.name = s.name ∧ p.2.name = t.name := by
      rw [Bool.and_eq_true, Ty.beq_iff, Ty.beq_iff]
    rw [List.foldl_cons, ih, rulesFor_file, List.any_cons]
    by_cases hps : (p.1 == s && p.2 == t) = true
    · -- filed anew: what was filed before under the same id is the rule itself
      rw [if_pos (hp.mp hps), hps, Bool.true_or, if_pos rfl]
      split
      · simp [List.filter_filter]
      · rfl
    · rw [if_neg (mt hp.mpr hps), Bool.eq_false_iff.mpr hps, Bool.false_or]

/-- **Adding a rule** puts it in front under its pairs, in place of one with its id. -/
lemma rulesFor_add (b : RuleBook) (r : Rule) (s t : Ty) :
    (b.add r).rulesFor s t =
      if r.declares s t = true then r :: (b.rulesFor s t).filter fun r' => r'.id != r.id
      else b.rulesFor s t :=
  rulesFor_foldl_file r r.pairs b s t

/-- **Soundness** of dispatch: the rule found accepts, and is filed under ancestors. -/
lemma exists_of_select? (h : b.select? source target = some r) :
    r.accepts source target = true ∧
      ∃ s ∈ source.ancestors, ∃ t ∈ target.ancestors, r ∈ b.rulesFor s t := by
  obtain ⟨s, hs, h⟩ := List.exists_of_findSome?_eq_some h
  obtain ⟨t, ht, h⟩ := List.exists_of_findSome?_eq_some h
  exact ⟨by simpa using List.find?_some h, s, hs, t, ht, List.mem_of_find?_eq_some h⟩

/-- **Completeness** of dispatch: an accepting rule under ancestors is not missed for want of
another. -/
lemma exists_select? (hs : s ∈ source.ancestors) (ht : t ∈ target.ancestors)
    (hr : r ∈ b.rulesFor s t) (ha : r.accepts source target = true) :
    ∃ r', b.select? source target = some r' := by
  refine Option.isSome_iff_exists.mp (List.findSome?_isSome_iff.mpr ⟨s, hs, ?_⟩)
  refine List.findSome?_isSome_iff.mpr ⟨t, ht, ?_⟩
  exact List.find?_isSome.mpr ⟨r, hr, ha⟩

lemma select?_congr {b' : RuleBook} (h : ∀ s t, b.rulesFor s t = b'.rulesFor s t)
    (source target : Ty) : b.select? source target = b'.select? source target := by
  simp only [select?, h]

/-! ### The routes of a conversion -/

variable {v w : Value}

/-- **Every conversion takes one of three routes**: null stays null, a value of the target stays
as it is, and else a rule found by dispatch converts it. -/
lemma convert_cases (h : b.convert v target = .ok w) :
    (v = .null ∧ w = .null) ∨
    (target.isAssignableFrom v.runtimeType = true ∧ w = v) ∨
    (v.isNull = false ∧ target.isAssignableFrom v.runtimeType = false ∧
      ∃ r, b.select? v.runtimeType target = some r ∧
        r.convert v v.runtimeType target = .ok w) := by
  unfold convert at h
  split at h
  · rename_i hn
    cases v with
    | null =>
      cases h
      exact Or.inl ⟨rfl, rfl⟩
    | _ => simp [Value.isNull] at hn
  · rename_i hn
    rw [Bool.not_eq_true] at hn
    dsimp only at h
    split at h
    · rename_i ha
      cases h
      exact Or.inr (Or.inl ⟨ha, rfl⟩)
    · rename_i ha
      rw [Bool.not_eq_true] at ha
      split at h
      · rename_i r hr
        exact Or.inr (Or.inr ⟨hn, ha, r, hr, h⟩)
      · exact nomatch h

lemma convert_of_assignable (b : RuleBook)
    (h : target.isAssignableFrom v.runtimeType = true) : b.convert v target = .ok v := by
  cases v <;> simp_all [convert, Value.isNull]

lemma convert_of_select? (hn : v.isNull = false)
    (ha : target.isAssignableFrom v.runtimeType = false)
    (hr : b.select? v.runtimeType target = some r) :
    b.convert v target = r.convert v v.runtimeType target := by
  simp [convert, hn, ha, hr]

lemma convert_of_select?_eq_none (hn : v.isNull = false)
    (ha : target.isAssignableFrom v.runtimeType = false)
    (h : b.select? v.runtimeType target = none) :
    b.convert v target = .error (.noConverter v.runtimeType.name target.name) := by
  simp [convert, hn, ha, h]

lemma canConvert_of_not_assignable (ha : target.isAssignableFrom source = false) :
    b.canConvert source target = (b.select? source target).isSome := by
  rw [canConvert, ha, Bool.false_or]

lemma convert_congr {b' : RuleBook}
    (h : b.select? v.runtimeType target = b'.select? v.runtimeType target) :
    b.convert v target = b'.convert v target := by
  simp only [convert, h]

end RuleBook

end ForeignCollections
