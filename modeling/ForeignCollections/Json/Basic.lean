import ForeignCollections.Decimal.Shortest
import ForeignCollections.Entries

/-!
JSON values. Among their numbers, integers of up to 64 bits stay exact, and everything else is a
binary64 magnitude with a sign. The members of an object keep the order in which they were met.
-/

namespace ForeignCollections.Json

/-- A number. The sign of a real is kept apart, so that zero has two forms. -/
inductive Number where
  | integer (n : Int)
  | real (negative : Bool) (magnitude : Binary64)
  deriving DecidableEq

/-- Where a real is written without an exponent: the range of the exponent of its first digit. -/
structure Layout where
  lowest : Int
  highest : Int

namespace Layout

/-- Digits with a point, always with a digit on both sides of it. -/
def positional (digits : List Char) (lead : Int) : List Char :=
  if lead < 0 then
    ['0', '.'] ++ List.replicate (-lead - 1).toNat '0' ++ digits
  else
    let whole := lead.toNat + 1
    let fraction := digits.drop whole
    digits.take whole ++ List.replicate (whole - digits.length) '0' ++
      '.' :: if fraction.isEmpty then ['0'] else fraction

/-- One digit, a point and the others if there are any, and the exponent with its sign. -/
def scientific (digits : List Char) (lead : Int) : List Char :=
  let mantissa :=
    match digits with
    | d :: e :: rest => d :: '.' :: e :: rest
    | short => short
  mantissa ++ 'e' :: (if lead < 0 then '-' else '+') :: Nat.toDigits 10 lead.natAbs

def write (layout : Layout) (x : Binary64) : List Char :=
  if x.mantissa = 0 then ['0', '.', '0']
  else
    let d := x.shortest
    let digits := Nat.toDigits 10 d.digits
    let lead := d.exponent + digits.length - 1
    if layout.lowest ≤ lead ∧ lead ≤ layout.highest then positional digits lead
    else scientific digits lead

end Layout

namespace Number

/-- Reals from 0.00001 up to and without 10000000000000000 are written with a point only. -/
def layout : Layout := ⟨-5, 15⟩

def chars : Number → List Char
  | integer n => if n < 0 then '-' :: Nat.toDigits 10 n.natAbs else Nat.toDigits 10 n.natAbs
  | real negative x => if negative then '-' :: layout.write x else layout.write x

def text (n : Number) : String := String.ofList n.chars

/-- The number as a 64-bit signed integer; a real is none, whatever its value. -/
def int64? : Number → Option Int64
  | integer n =>
    if Int64.minValue.toInt ≤ n ∧ n ≤ Int64.maxValue.toInt then some (Int64.ofInt n) else none
  | real _ _ => none

def ofInt64 (n : Int64) : Number := integer n.toInt

theorem int64?_ofInt64 (n : Int64) : (ofInt64 n).int64? = some n := by
  simp only [ofInt64, int64?, n.minValue_le_toInt, n.toInt_le, and_self, if_true,
    Int64.ofInt_toInt]

end Number

end ForeignCollections.Json

namespace ForeignCollections

inductive Json where
  | null
  | bool (b : Bool)
  | number (n : Json.Number)
  | text (s : String)
  | array (items : List Json)
  | object (members : List (String × Json))

namespace Json

/-- An object from members in the order of a text: a repeated key keeps its first place and
takes its last value. -/
def ofMembers (members : List (String × Json)) : Json :=
  .object (Entries.entriesOf (fun a b : String => a == b) members)

def texts (ss : List String) : Json := .array (ss.map .text)

end Json

end ForeignCollections
