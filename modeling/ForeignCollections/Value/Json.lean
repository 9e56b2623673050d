import ForeignCollections.Error
import ForeignCollections.Json.Basic
import ForeignCollections.Value.Basic

/-!
Values from JSON and back. Arrays become array lists and objects become linked maps with texts
for keys. On the way back a sequence or a set is an array, and a map is an object if all its
keys are texts and an array of pairs otherwise.
-/

namespace ForeignCollections

namespace Json

def text? : Json → Option String
  | text s => some s
  | _ => none

/-- An object if all keys are strings, else an array of pairs. -/
def ofPairs (pairs : List (Json × Json)) : Json :=
  match pairs.mapM fun p => p.1.text?.map fun k => (k, p.2) with
  | some members => ofMembers members
  | none => .array (pairs.map fun p => .array [p.1, p.2])

end Json

namespace Value

mutual

/-- The value of a JSON value, unless some number in it is no 64-bit integer. -/
def ofJson : Json → Except CollectionError Value
  | .null => .ok .null
  | .bool b => .ok (.bool b)
  | .number n =>
    match n.int64? with
    | some i => .ok (.int i)
    | none => .error (.notIntegral n)
  | .text s => .ok (.text s)
  | .array items => (ofJsonItems items).map arrayList
  | .object members => (ofJsonMembers members).map linkedHashMap

def ofJsonItems : List Json → Except CollectionError (List Value)
  | [] => .ok []
  | j :: js => do
    let v ← ofJson j
    let vs ← ofJsonItems js
    .ok (v :: vs)

def ofJsonMembers : List (String × Json) → Except CollectionError (List (Value × Value))
  | [] => .ok []
  | (k, j) :: ms => do
    let v ← ofJson j
    let es ← ofJsonMembers ms
    .ok ((.text k, v) :: es)

end

mutual

def toJson : Value → Json
  | .null => .null
  | .bool b => .bool b
  | .int n => .number (.ofInt64 n)
  | .text s => .text s
  | .sequence _ xs => .array (toJsonItems xs)
  | .set _ xs => .array (toJsonItems xs)
  | .map _ es => .ofPairs (toJsonPairs es)

def toJsonItems : List Value → List Json
  | [] => []
  | x :: xs => toJson x :: toJsonItems xs

def toJsonPairs : List (Value × Value) → List (Json × Json)
  | [] => []
  | (k, v) :: es => (toJson k, toJson v) :: toJsonPairs es

end

end Value

end ForeignCollections
