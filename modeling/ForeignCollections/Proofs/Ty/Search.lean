import Mathlib.Data.Nat.Init
import Mathlib.Logic.Function.Iterate
import ForeignCollections.Proofs.Ty.Reachability

/-!
The search above a type with a queue. Round by round the first type that waits is expanded, and its
supertypes that have not been met wait behind the others. The rounds that expand one generation
leave the next one waiting; so the search ends, after as many rounds as there are names above the
type, and has expanded the generations one after the other. A search that stops as soon as it meets
the type it looks for gives the same answer as the test of assignability.
-/

namespace ForeignCollections.Ty

/-- A search under way: the types that have been expanded and those that wait for it. -/
structure Search where
  expanded : List Ty
  waiting : List Ty

namespace Search

def above (t : Ty) : Search := ⟨[], [t]⟩

def met (s : Search) : List String := (s.expanded ++ s.waiting).map name

/-- One round: of the supertypes of the first type that waits, those that pass `keep` and have not
been met wait behind the others. -/
def round (keep : Ty → Bool) (s : Search) : Search :=
  match s.waiting with
  | [] => s
  | t :: ts => ⟨s.expanded ++ [t], ts ++ unseen s.met (t.supers.filter keep)⟩

/-- What the search for `a` answers if it is given a number of rounds: yes as soon as it expands a
type that declares `a`, no if nothing waits. -/
def answer? (a : Ty) : ℕ → Search → Option Bool
  | 0, s => if s.waiting.isEmpty then some false else none
  | n + 1, s =>
    match s.waiting with
    | [] => some false
    | t :: _ => if t.supers.any (· == a) then some true else answer? a n (s.round fun _ => true)

lemma round_cons (keep : Ty → Bool) (ds ts : List Ty) (t : Ty) : round keep ⟨ds, t :: ts⟩ =
    ⟨ds ++ [t], ts ++ unseen ((ds ++ t :: ts).map name) (t.supers.filter keep)⟩ := rfl

/-! ### The search ends -/

lemma iterate_round_ended (keep : Ty → Bool) (ds : List Ty) (n : ℕ) :
    (round keep)^[n] ⟨ds, []⟩ = ⟨ds, []⟩ :=
  Function.iterate_fixed rfl n

lemma iterate_round_append (keep : Ty → Bool) (ds ts us : List Ty) :
    (round keep)^[ts.length] ⟨ds, ts ++ us⟩ = ⟨ds ++ ts,
      us ++ unseen ((ds ++ (ts ++ us)).map name) ((ts.flatMap supers).filter keep)⟩ := by
  induction ts generalizing ds us with
  | nil => simp [unseen]
  | cons t ts ih =>
    rw [List.length_cons, Function.iterate_succ_apply, List.cons_append, round_cons,
      List.append_assoc, ih, List.flatMap_cons, List.filter_append, unseen_append]
    simp [List.append_assoc]

/-- The rounds that expand a generation leave the next one waiting. -/
lemma iterate_round_generation (keep : Ty → Bool) (ds level : List Ty) :
    (round keep)^[level.length] ⟨ds, level⟩ =
      ⟨ds ++ level, nextGeneration keep ((ds ++ level).map name) level⟩ := by
  have h := iterate_round_append keep ds level []
  rwa [List.append_nil, List.nil_append] at h

lemma iterate_round_generations (keep : Ty → Bool) (seen : List String) (level : List Ty) :
    ∀ ds : List Ty, seen = (ds ++ level).map name →
      (round keep)^[(generations keep seen level).flatten.length] ⟨ds, level⟩ =
        ⟨ds ++ (generations keep seen level).flatten, []⟩ := by
  induction seen, level using generations.induct keep with
  | case1 seen =>
    intro ds _
    simp
  | case2 seen t ts next ih =>
    intro ds hseen
    rw [flatten_generations, List.length_append, Nat.add_comm, Function.iterate_add_apply,
      iterate_round_generation, ← hseen, ih (ds ++ t :: ts), List.append_assoc]
    exact (congrArg (· ++ next.map name) hseen).trans List.map_append.symm

/-- **The search ends**: after as many rounds as there are types to be met, these have been
expanded and nothing waits. -/
lemma iterate_round_above (keep : Ty → Bool) (t : Ty) {n : ℕ} (hn : (t.closure keep).length ≤ n) :
    (round keep)^[n] (above t) = ⟨t.closure keep, []⟩ := by
  obtain ⟨m, rfl⟩ := Nat.exists_eq_add_of_le' hn
  have h := iterate_round_generations keep [t.name] [t] [] rfl
  rw [Function.iterate_add_apply, above]
  exact (congrArg _ h).trans (iterate_round_ended keep _ m)

/-! ### The answer -/

variable {a : Ty} {s : Search} {n : ℕ}

lemma answer?_ended (a : Ty) (n : ℕ) (ds : List Ty) : answer? a n ⟨ds, []⟩ = some false := by
  cases n <;> rfl

lemma answer?_cons (a : Ty) (n : ℕ) (ds us : List Ty) (t : Ty) :
    answer? a (n + 1) ⟨ds, t :: us⟩ =
      if t.supers.any (· == a) then some true
      else answer? a n (round (fun _ => true) ⟨ds, t :: us⟩) := rfl

lemma prefix_expanded_iterate (keep : Ty → Bool) (n : ℕ) (s : Search) :
    s.expanded <+: ((round keep)^[n] s).expanded := by
  induction n generalizing s with
  | zero => exact List.prefix_refl _
  | succ n ih =>
    rw [Function.iterate_succ_apply]
    refine List.IsPrefix.trans ?_ (ih _)
    obtain ⟨ds, ts⟩ := s
    cases ts with
    | nil => exact List.prefix_refl _
    | cons t ts => exact List.prefix_append _ _

lemma answer?_of_ended {ts : List Ty}
    (h : (round fun _ => true)^[n] s = ⟨s.expanded ++ ts, []⟩) :
    answer? a n s = some (ts.any fun t => t.supers.any (· == a)) := by
  induction n generalizing s ts with
  | zero =>
    obtain ⟨ds, us⟩ := s
    rw [Function.iterate_zero_apply, Search.mk.injEq, List.self_eq_append_right] at h
    obtain ⟨rfl, rfl⟩ := h
    exact answer?_ended a 0 ds
  | succ n ih =>
    rw [Function.iterate_succ_apply] at h
    obtain ⟨ds, us⟩ := s
    cases us with
    | nil =>
      have hended := h.symm.trans (iterate_round_ended _ ds n)
      rw [Search.mk.injEq, List.append_right_eq_self] at hended
      rw [hended.1, answer?_ended, List.any_nil]
    | cons t us =>
      -- `t` is the first of those that are still to be expanded
      have hfirst := prefix_expanded_iterate (fun _ => true) n (round (fun _ => true) ⟨ds, t :: us⟩)
      rw [h, round_cons, List.prefix_append_right_inj] at hfirst
      obtain ⟨ts, rfl⟩ := hfirst
      rw [answer?_cons, List.singleton_append, List.any_cons]
      cases t.supers.any (· == a) with
      | true => rfl
      | false =>
        rw [if_neg Bool.false_ne_true, Bool.false_or]
        exact ih (by rw [h, round_cons, List.append_assoc])

end Search

lemma any_declares_closure {a b : Ty} (hab : a.name ≠ b.name) :
    ((b.closure fun _ => true).any fun t => t.supers.any (· == a)) =
      (b.closure fun _ => true).any (· == a) := by
  rw [Bool.eq_iff_iff, any_beq_iff, mem_names_closure_iff, or_iff_right hab]
  simp only [List.any_eq_true, beq_iff, Declares, true_and]

/-- The search for `a` above `b`: it is not needed if `a` is the root or has the name of `b`. -/
def searchFor (a b : Ty) (rounds : ℕ) : Option Bool :=
  if b == a || a.isObject then some true else Search.answer? a rounds (.above b)

/-- **The search answers as assignability does**, as soon as it is given as many rounds as there
are names above the type. -/
lemma searchFor_eq (a b : Ty) {n : ℕ} (hn : (b.closure fun _ => true).length ≤ n) :
    searchFor a b n = some (a.isAssignableFrom b) := by
  rw [searchFor]
  by_cases hab : b.name = a.name
  · rw [beq_iff.mpr hab, Bool.true_or, if_pos rfl, ← isAssignableFrom_congr hab,
      isAssignableFrom_self]
  · rw [Bool.eq_false_iff.mpr (mt beq_iff.mp hab), Bool.false_or]
    cases ho : a.isObject with
    | true => rw [if_pos rfl, isAssignableFrom, ho, Bool.true_or]
    | false =>
      have hended := Search.iterate_round_above (fun _ => true) b hn
      have hanswer : Search.answer? a n (.above b) =
          some ((b.closure fun _ => true).any fun t => t.supers.any (· == a)) :=
        Search.answer?_of_ended hended
      rw [if_neg Bool.false_ne_true, hanswer, any_declares_closure (Ne.symm hab),
        isAssignableFrom, ho, Bool.false_or]

end ForeignCollections.Ty
