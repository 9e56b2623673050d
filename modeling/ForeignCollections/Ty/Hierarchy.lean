import ForeignCollections.Ty.Declare

/-!
The hierarchy above a type, generation by generation: the type itself, then its direct
supertypes, then theirs, and so on. A name is met once, at the handle that is found first,
so shared and repeated supertypes do no harm. Ancestors and assignability are both read off
these generations; the former pass over handles that bear the root's name.
-/

namespace ForeignCollections.Ty

/-- The next generation: the supertypes of `level` that pass `keep`, without known names. -/
def nextGeneration (keep : Ty → Bool) (seen : List String) (level : List Ty) : List Ty :=
  unseen seen ((level.flatMap supers).filter keep)

theorem sizeOf_unseen_le (seen : List String) (ts : List Ty) :
    sizeOf (unseen seen ts) ≤ sizeOf ts := by
  induction ts generalizing seen with
  | nil => simp [unseen]
  | cons t ts ih =>
    have h₁ := ih seen
    have h₂ := ih (t.name :: seen)
    unfold unseen
    split <;> simp only [List.cons.sizeOf_spec] <;> omega

theorem sizeOf_filter_le (keep : Ty → Bool) (ts : List Ty) :
    sizeOf (ts.filter keep) ≤ sizeOf ts := by
  induction ts with
  | nil => simp
  | cons t ts ih =>
    rw [List.filter_cons]
    split <;> simp only [List.cons.sizeOf_spec] <;> omega

theorem sizeOf_append (as bs : List Ty) : sizeOf (as ++ bs) + 1 = sizeOf as + sizeOf bs := by
  induction as with
  | nil => simp only [List.nil_append, List.nil.sizeOf_spec]; omega
  | cons a as ih => simp only [List.cons_append, List.cons.sizeOf_spec]; omega

theorem sizeOf_supers_lt (t : Ty) : sizeOf t.supers < sizeOf t := by
  cases t
  simp only [supers, mk.sizeOf_spec]
  omega

theorem sizeOf_flatMap_supers_le (ts : List Ty) :
    sizeOf (ts.flatMap supers) ≤ sizeOf ts := by
  induction ts with
  | nil => simp
  | cons t ts ih =>
    have h₁ := sizeOf_append t.supers (ts.flatMap supers)
    have h₂ := sizeOf_supers_lt t
    simp only [List.flatMap_cons, List.cons.sizeOf_spec]
    omega

theorem sizeOf_nextGeneration_lt (keep : Ty → Bool) (seen : List String) (t : Ty)
    (ts : List Ty) : sizeOf (nextGeneration keep seen (t :: ts)) < sizeOf (t :: ts) := by
  have h₁ := sizeOf_unseen_le seen (((t :: ts).flatMap supers).filter keep)
  have h₂ := sizeOf_filter_le keep ((t :: ts).flatMap supers)
  have h₃ := sizeOf_append t.supers (ts.flatMap supers)
  have h₄ := sizeOf_supers_lt t
  have h₅ := sizeOf_flatMap_supers_le ts
  simp only [nextGeneration, List.flatMap_cons, List.cons.sizeOf_spec] at *
  omega

/-- The generation `level` and all that follow it. A handle is larger than its supertypes
together, so each generation is smaller than the one before. -/
def generations (keep : Ty → Bool) (seen : List String) : List Ty → List (List Ty)
  | [] => []
  | t :: ts =>
    let next := nextGeneration keep seen (t :: ts)
    (t :: ts) :: generations keep (seen ++ next.map name) next
termination_by level => sizeOf level
decreasing_by exact sizeOf_nextGeneration_lt keep seen t ts

/-- The type and everything above it that is found through handles passing `keep`. -/
def closure (keep : Ty → Bool) (t : Ty) : List Ty :=
  (generations keep [t.name] [t]).flatten

/-- The type itself, then its supertypes by generation, the root always last. -/
def ancestors (t : Ty) : List Ty :=
  t.closure (!·.isObject) ++ if t.isObject then [] else [object]

/-- A value of type `b` can stand where a value of type `a` is asked for. -/
def isAssignableFrom (a b : Ty) : Bool :=
  a.isObject || (b.closure fun _ => true).any (· == a)

def isAssignableTo (a b : Ty) : Bool := b.isAssignableFrom a

end ForeignCollections.Ty
