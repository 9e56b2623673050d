import ForeignCollections.Json.Basic
import ForeignCollections.Json.Reader

/-!
The numerals of a JSON text and the numbers they stand for. An integer is exact as long as it
fits 64 bits. Any other numeral is a significand of 64 bits times a power of ten: digits are
taken into the significand while it has room, and the rest only move the point.
-/

namespace ForeignCollections.Json

/-- A numeral by its parts, each a list of decimal digits. -/
structure Numeral where
  negative : Bool
  whole : List Char
  fraction : Option (List Char)
  /-- The sign of the exponent, true if it is negative, and its digits. -/
  exponent : Option (Bool × List Char)

theorem length_dropWhile_lt (p : Char → Bool) (rest : List Char) :
    (rest.dropWhile p).length < rest.length + 1 := by
  have := (List.dropWhile_sublist p (l := rest)).length_le
  omega

/-- Digits, at least one; `cut` is the fault of a text that ends in front of them. -/
def digits (cut : Fault) : Reader (List Char)
  | [] => .error cut
  | c :: rest =>
    if c.isDigit then
      .ok ⟨c :: rest.takeWhile Char.isDigit, rest.dropWhile Char.isDigit,
        length_dropWhile_lt Char.isDigit rest⟩
    else .error .malformed

/-- The digits in front of the point. A leading zero stands alone. -/
def wholeDigits (cut : Fault) : Reader (List Char) := fun input => do
  let t ← digits cut input
  match t.value with
  | '0' :: _ :: _ => .error .malformed
  | _ => .ok t

def fractionPart (cut : Fault) :
    (input : List Char) → Except Fault (Taken (Option (List Char)) (input.length + 1))
  | '.' :: rest => do
    let t ← digits cut rest
    .ok ⟨some t.value, t.rest, by have := t.fits; simp only [List.length_cons]; omega⟩
  | input => .ok ⟨none, input, length_lt_succ input⟩

def signedDigits (cut : Fault) : Reader (Bool × List Char)
  | '-' :: rest => ((digits cut).map (true, ·) rest).map (Taken.widen (length_le_succ rest))
  | '+' :: rest => ((digits cut).map (false, ·) rest).map (Taken.widen (length_le_succ rest))
  | input => (digits cut).map (false, ·) input

def exponentPart (cut : Fault) :
    (input : List Char) → Except Fault (Taken (Option (Bool × List Char)) (input.length + 1))
  | [] => .ok ⟨none, [], Nat.zero_lt_one⟩
  | c :: rest =>
    if c = 'e' ∨ c = 'E' then do
      let t ← signedDigits cut rest
      .ok ⟨some t.value, t.rest, by have := t.fits; simp only [List.length_cons]; omega⟩
    else .ok ⟨none, c :: rest, length_lt_succ (c :: rest)⟩

def unsigned (cut : Fault) (negative : Bool) : Reader Numeral := fun input => do
  let whole ← wholeDigits cut input
  have := whole.fits
  let fraction ← fractionPart cut whole.rest
  have := fraction.fits
  let exponent ← exponentPart cut fraction.rest
  have := exponent.fits
  .ok ⟨⟨negative, whole.value, fraction.value, exponent.value⟩, exponent.rest, by omega⟩

def numeral (cut : Fault) : Reader Numeral
  | '-' :: rest => (unsigned cut true rest).map (Taken.widen (length_le_succ rest))
  | input => unsigned cut false input

def digitValue (c : Char) : Nat := c.toNat - '0'.toNat

/-- Takes digits into a significand while it stays below `2 ^ 64`, and gives back the rest. -/
def gather (significand : Nat) : List Char → Nat × List Char
  | [] => (significand, [])
  | c :: cs =>
    let larger := significand * 10 + digitValue c
    if larger < twoTo 64 then gather larger cs else (significand, c :: cs)

namespace Numeral

def power (n : Numeral) : Int :=
  match n.exponent with
  | none => 0
  | some (negative, ds) =>
    let e : Nat := ds.foldl (fun e c => e * 10 + digitValue c) 0
    if negative then -(e : Int) else e

/-- The number a numeral stands for, unless it is too large. A negative zero is a real, and so
is a negative integer that does not fit 64 bits. -/
def number? (n : Numeral) : Option Number :=
  let (significand, left) := gather 0 n.whole
  if n.fraction.isNone ∧ n.exponent.isNone ∧ left.isEmpty ∧
      (!n.negative ∨ 0 < significand ∧ significand ≤ twoTo 63) then
    some (.integer (if n.negative then -(significand : Int) else significand))
  else do
    let fraction := n.fraction.getD []
    let (significand, unused) := gather significand fraction
    let taken : Nat := fraction.length - unused.length
    let magnitude ← Binary64.ofNat? significand
    let scaled ← magnitude.scale? ((left.length : Int) - taken + n.power)
    some (.real n.negative scaled)

end Numeral

/-- A number. One that is too large is refused as malformed. -/
def Reader.number : Reader Number := fun input => do
  let t ← numeral .ended input
  match t.value.number? with
  | some n => .ok (t.map fun _ => n)
  | none => .error .malformed

/-- A number that is only skipped may be of any size. -/
def Reader.skippedNumber : Reader Unit := (numeral .malformed).map fun _ => ()

end ForeignCollections.Json
