import ForeignCollections.Json.Basic
import ForeignCollections.Json.Numeral
import ForeignCollections.Json.Text

/-!
Reading JSON values of any kind, either to keep them or to skip them. A value that is kept may
be nested 127 levels deep; one that is skipped may be nested to any depth and hold any numeral.
-/

namespace ForeignCollections.Json

/-- What a reader makes of the parts of a value. -/
structure Builder (κ α : Type) where
  null : α
  bool : Bool → α
  number : Reader α
  text : Reader α
  key : Reader κ
  array : List α → α
  object : List (κ × α) → α

namespace Builder

variable {κ α : Type}

def scalar (b : Builder κ α) : Reader α
  | [] => .error .ended
  | 'n' :: rest => (literal ['u', 'l', 'l'] rest).map (Taken.map fun _ => b.null)
  | 't' :: rest => (literal ['r', 'u', 'e'] rest).map (Taken.map fun _ => b.bool true)
  | 'f' :: rest => (literal ['a', 'l', 's', 'e'] rest).map (Taken.map fun _ => b.bool false)
  | '"' :: rest => (b.text rest).map (Taken.widen (length_le_succ rest))
  | c :: rest => if c = '-' ∨ c.isDigit then b.number (c :: rest) else .error .malformed

/-- A value with at most `depth` levels of arrays and objects. -/
def value (b : Builder κ α) (depth : Nat) : Reader α :=
  Reader.spaced fun
    | '[' :: rest =>
      match depth with
      | 0 => .error .malformed
      | depth + 1 =>
        (items (b.value depth) rest).map fun t =>
          (t.map b.array).widen (length_le_succ rest)
    | '{' :: rest =>
      match depth with
      | 0 => .error .malformed
      | depth + 1 =>
        (members b.key (b.value depth) rest).map fun t =>
          (t.map b.object).widen (length_le_succ rest)
    | input => b.scalar input

end Builder

def keeping : Builder String Json where
  null := .null
  bool := .bool
  number := Reader.number.map .number
  text := Reader.text.map .text
  key := Reader.text
  array := .array
  object := ofMembers

def skipping : Builder Unit Unit where
  null := ()
  bool _ := ()
  number := Reader.skippedNumber
  text := Reader.skippedText
  key := Reader.skippedText
  array _ := ()
  object _ := ()

/-- How deep a value that is kept may be nested. -/
def maxDepth : Nat := 127

def Reader.value : Reader Json := keeping.value maxDepth

/-- A value that is skipped. No text is nested deeper than it is long. -/
def Reader.skipped : Reader Unit := fun input => skipping.value input.length input

def parse (s : String) : Except Fault Json := readAll Reader.value s

end ForeignCollections.Json
