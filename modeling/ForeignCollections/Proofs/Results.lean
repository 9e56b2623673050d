import Mathlib.Tactic.Common

/-!
Computations that may fail: what success says about the steps they are made of, and which of these
steps a failure comes from.
-/

namespace ForeignCollections

variable {ε ε' α β γ : Type}

lemma map_eq_ok_iff {x : Except ε α} {f : α → β} {b : β} :
    x.map f = .ok b ↔ ∃ a, x = .ok a ∧ f a = b := by
  cases x <;> simp [Except.map]

lemma mapError_eq_ok_iff {x : Except ε α} {f : ε → ε'} {a : α} :
    x.mapError f = .ok a ↔ x = .ok a := by
  cases x <;> simp [Except.mapError]

lemma bind_eq_ok_iff {x : Except ε α} {f : α → Except ε β} {b : β} :
    x >>= f = .ok b ↔ ∃ a, x = .ok a ∧ f a = .ok b := by
  cases x <;> simp [bind, Except.bind]

/-- A result that is a success with data that can be compared is found by evaluation. -/
lemma eq_ok_of_toOption {x : Except ε α} {a : α} (h : x.toOption = some a) : x = .ok a := by
  cases x with
  | error e => cases h
  | ok b =>
    cases h
    rfl

def failure? : Except ε α → Option ε
  | .error e => some e
  | .ok _ => none

lemma failure?_eq_some_iff {x : Except ε α} {e : ε} : failure? x = some e ↔ x = .error e := by
  cases x <;> simp [failure?]

lemma failure?_eq_none_iff {x : Except ε α} : failure? x = none ↔ ∃ a, x = .ok a := by
  cases x <;> simp [failure?]

@[simp] lemma failure?_map (x : Except ε α) (f : α → β) : failure? (x.map f) = failure? x := by
  cases x <;> rfl

lemma failure?_bind₂ (x : Except ε α) (y : Except ε β) (f : α → β → γ) :
    failure? (do let a ← x; let b ← y; .ok (f a b)) = (failure? x).or (failure? y) := by
  cases x <;> cases y <;> rfl

end ForeignCollections
