import ForeignCollections.Json.Parser

/-!
Reading JSON straight into typed data. A record is an object with known members, in any order
and each at most once, among unknown ones that are skipped; or it is an array of the same
fields in their fixed order. A value of the wrong kind is a mismatch, but a scalar is read to
its end first, so that broken syntax in it counts before its kind.
-/

namespace ForeignCollections.Json

/-- The fault of a text whose value is not of the kind asked for. -/
def wrongKind : List Char → Fault
  | '[' :: _ => .mismatch
  | '{' :: _ => .mismatch
  | input =>
    match keeping.scalar input with
    | .ok _ => .mismatch
    | .error fault => fault

def Reader.aText : Reader String := Reader.spaced fun
  | '"' :: rest => (Reader.text rest).map (Taken.widen (length_le_succ rest))
  | input => .error (wrongKind input)

def Reader.aTextOrNull : Reader (Option String) := Reader.spaced fun
  | 'n' :: rest => (literal ['u', 'l', 'l'] rest).map (Taken.map fun _ => none)
  | input => (Reader.aText input).map (Taken.map some)

def Reader.aBool : Reader Bool := Reader.spaced fun
  | 't' :: rest => (literal ['r', 'u', 'e'] rest).map (Taken.map fun _ => true)
  | 'f' :: rest => (literal ['a', 'l', 's', 'e'] rest).map (Taken.map fun _ => false)
  | input => .error (wrongKind input)

def Reader.someTexts : Reader (List String) := Reader.spaced fun
  | '[' :: rest => (items Reader.aText rest).map (Taken.widen (length_le_succ rest))
  | input => .error (wrongKind input)

/-- A field of a record that is being read into a state `σ`. -/
structure Field (σ : Type) where
  name : String
  isSet : σ → Bool
  read : σ → Reader σ

def Field.of {σ α : Type} (name : String) (get : σ → Option α) (put : σ → α → σ)
    (r : Reader α) : Field σ :=
  ⟨name, fun s => (get s).isSome, fun s => r.map (put s)⟩

/-- How a record is read. -/
structure Record (σ α : Type) where
  fields : List (Field σ)
  start : σ
  /-- Whether a record in array form may leave out its last fields. -/
  mayEndEarly : Bool
  /-- The data, unless a field that is needed is missing. -/
  finish : σ → Option α

namespace Record

variable {σ α : Type}

/-- What follows the key of a member: the value of a known field that has not been read, or
anything behind an unknown key. -/
def memberValue (fields : List (Field σ)) (s : σ) (key : String) : Reader σ :=
  match fields.find? (·.name == key) with
  | some f => if f.isSet s then fun _ => .error .mismatch else afterColon (f.read s)
  | none => afterColon (Reader.skipped.map fun _ => s)

def objectForm (fields : List (Field σ)) (s : σ) : Reader σ :=
  entries '}' (fun s => member Reader.text (memberValue fields s)) true s

def arrayEnd {β : Type} (b : β) : Reader β := Reader.spaced fun
  | [] => .error .ended
  | c :: rest => if c = ']' then .ok ⟨b, rest, length_lt_succ rest⟩ else .error .malformed

def arrayForm (mayEndEarly : Bool) (first : Bool) : List (Field σ) → σ → Reader σ
  | [], s => arrayEnd s
  | f :: fs, s => fun input => do
    match ← next ']' first input with
    | .closed rest fits => if mayEndEarly then .ok ⟨s, rest, fits⟩ else .error .mismatch
    | .entry entry fits =>
      let t ← f.read s entry
      have := t.fits
      let u ← arrayForm mayEndEarly false fs t.value t.rest
      .ok (u.widen (by omega))

/-- The data of a record in either form. -/
def reader (r : Record σ α) : Reader α := fun input => do
  let t ← Reader.spaced
    (fun
      | '[' :: rest =>
        (arrayForm r.mayEndEarly true r.fields r.start rest).map (Taken.widen (length_le_succ rest))
      | '{' :: rest => (objectForm r.fields r.start rest).map (Taken.widen (length_le_succ rest))
      | input => .error (wrongKind input))
    input
  match r.finish t.value with
  | some a => .ok (t.map fun _ => a)
  | none => .error .mismatch

def parse (r : Record σ α) (s : String) : Except Fault α := readAll r.reader s

end Record

end ForeignCollections.Json
