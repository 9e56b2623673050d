/-!
Readers of JSON text. A reader takes a value off the front of a list of characters and leaves
the rest, which is shorter; that is what lets the loops end. The text is read from left to
right and the first fault counts.
-/

namespace ForeignCollections.Json

/-- Why a text is refused. -/
inductive Fault where
  | ended
  /-- The syntax is right but the value is not of the kind asked for. -/
  | mismatch
  | malformed
  deriving DecidableEq

theorem length_lt_succ (rest : List Char) : rest.length < rest.length + 1 :=
  Nat.lt_succ_self _

theorem length_le_succ (rest : List Char) : rest.length ≤ rest.length + 1 :=
  Nat.le_succ _

/-- A value and the characters left behind it, fewer than `bound`. -/
structure Taken (α : Type) (bound : Nat) where
  value : α
  rest : List Char
  fits : rest.length < bound

namespace Taken

variable {α β : Type} {m n : Nat}

def map (f : α → β) (t : Taken α n) : Taken β n := ⟨f t.value, t.rest, t.fits⟩

def widen (h : m ≤ n) (t : Taken α m) : Taken α n := ⟨t.value, t.rest, by have := t.fits; omega⟩

end Taken

/-- Takes a value off the front of a text and consumes at least one character. -/
abbrev Reader (α : Type) := (input : List Char) → Except Fault (Taken α input.length)

def Reader.map {α β : Type} (f : α → β) (r : Reader α) : Reader β :=
  fun input => (r input).map (Taken.map f)

def isSpace (c : Char) : Bool := c = ' ' || c = '\n' || c = '\t' || c = '\r'

def skipSpace (input : List Char) : List Char := input.dropWhile isSpace

theorem length_skipSpace_le (input : List Char) :
    (skipSpace input).length ≤ input.length :=
  (List.dropWhile_sublist isSpace).length_le

def Reader.spaced {α : Type} (r : Reader α) : Reader α := fun input =>
  (r (skipSpace input)).map (Taken.widen (length_skipSpace_le input))

/-- Takes exactly the given characters, which may be none. -/
def literal : (expected : List Char) → (input : List Char) →
    Except Fault (Taken Unit (input.length + 1))
  | [], input => .ok ⟨(), input, by omega⟩
  | _ :: _, [] => .error .ended
  | e :: es, c :: input =>
    if c = e then (literal es input).map (Taken.widen (Nat.le_succ _)) else .error .malformed

/-- What stands next in a list of entries. -/
inductive Next (bound : Nat) where
  | closed (rest : List Char) (fits : rest.length < bound)
  | entry (start : List Char) (fits : start.length ≤ bound)

/-- Looks for the next entry of a list, the opening bracket already taken. Entries are
separated by commas, and none follows the last one. -/
def next (close : Char) (first : Bool) (input : List Char) :
    Except Fault (Next input.length) :=
  have hs := length_skipSpace_le input
  match h : skipSpace input with
  | [] => .error .ended
  | c :: rest =>
    have hr : rest.length < input.length := by simp only [h, List.length_cons] at hs; omega
    if c = close then .ok (.closed rest hr)
    else if first then .ok (.entry (c :: rest) (by rw [← h]; exact hs))
    else if c = ',' then
      have ht := length_skipSpace_le rest
      match h' : skipSpace rest with
      | [] => .error .ended
      | d :: left =>
        if d = close then .error .malformed
        else .ok (.entry (d :: left) (by rw [← h']; omega))
    else .error .malformed

/-- Folds over the entries of a list up to its closing bracket. -/
def entries {σ : Type} (close : Char) (entry : σ → Reader σ) (first : Bool) (s : σ)
    (input : List Char) : Except Fault (Taken σ input.length) := do
  match ← next close first input with
  | .closed rest fits => .ok ⟨s, rest, fits⟩
  | .entry start fits =>
    let t ← entry s start
    have := t.fits
    let u ← entries close entry false t.value t.rest
    .ok (u.widen (by omega))
termination_by input.length
decreasing_by omega

def items {α : Type} (item : Reader α) : Reader (List α) :=
  Reader.map List.reverse
    (entries ']' (fun found => item.map (· :: found)) true [])

def colon : Reader Unit := Reader.spaced fun
  | [] => .error .ended
  | c :: rest => if c = ':' then .ok ⟨(), rest, length_lt_succ rest⟩ else .error .malformed

def member {κ α : Type} (key : Reader κ) (value : κ → Reader α) : Reader α
  | [] => .error .ended
  | c :: input =>
    if c = '"' then do
      let k ← key input
      let v ← value k.value k.rest
      .ok (v.widen (by have := k.fits; simp only [List.length_cons]; omega))
    else .error .malformed

def afterColon {α : Type} (value : Reader α) : Reader α := fun input => do
  let c ← colon input
  let v ← value c.rest
  .ok (v.widen (by have := c.fits; omega))

def members {κ α : Type} (key : Reader κ) (value : Reader α) : Reader (List (κ × α)) :=
  Reader.map List.reverse
    (entries '}'
      (fun found => member key fun k => (afterColon value).map fun v => (k, v) :: found) true [])

/-- Reads a whole text: nothing but white space may follow the value. -/
def readAll {α : Type} (r : Reader α) (text : String) : Except Fault α := do
  let t ← r text.toList
  if (skipSpace t.rest).isEmpty then .ok t.value else .error .malformed

end ForeignCollections.Json
