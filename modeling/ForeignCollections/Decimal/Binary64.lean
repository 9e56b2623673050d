/-!
Finite binary64 magnitudes in exact arithmetic: a mantissa of at most 53 bits times a power of
two. Every operation rounds the exact quotient of two natural numbers once, to the nearest
magnitude and to the even mantissa on a tie, and refuses what is too large.
-/

namespace ForeignCollections

abbrev twoTo (n : Nat) : Nat := Nat.pow 2 n

abbrev tenTo (n : Nat) : Nat := Nat.pow 10 n

/-- The magnitude `mantissa * 2 ^ exponent`. -/
structure Binary64 where
  mantissa : Nat
  exponent : Int
  /-- The exponent is the smallest possible, or the mantissa uses all its bits. -/
  normal : mantissa < twoTo 53 ∧ -1074 ≤ exponent ∧ exponent ≤ 971 ∧
    (twoTo 52 ≤ mantissa ∨ exponent = -1074)
  deriving DecidableEq

/-- The quotient of `num` by `den`, rounded to the nearest, a tie to the even neighbour. -/
def roundDiv (num den : Nat) : Nat :=
  let q := num / den
  let r := num % den
  if 2 * r < den then q else if den < 2 * r then q + 1 else q + q % 2

namespace Binary64

def zero : Binary64 := ⟨0, -1074, by decide⟩

def num (x : Binary64) : Nat := x.mantissa * twoTo x.exponent.toNat

def den (x : Binary64) : Nat := twoTo (-x.exponent).toNat

/-- `mantissa * 2 ^ exponent`, unless it is out of range. A mantissa of `2 ^ 53`, as rounding
up may give, is halved. -/
def make? (mantissa : Nat) (exponent : Int) : Option Binary64 :=
  let (m, e) :=
    if mantissa = twoTo 53 then (twoTo 52, exponent + 1) else (mantissa, exponent)
  if h : m < twoTo 53 ∧ -1074 ≤ e ∧ e ≤ 971 ∧ (twoTo 52 ≤ m ∨ e = -1074) then
    some ⟨m, e, h⟩
  else none

/-- The magnitude nearest to `num / den`, or `none` if that is too large. -/
def ofRatio? (num den : Nat) : Option Binary64 :=
  if num = 0 then some zero
  else
    -- `num / den` lies strictly between `2 ^ (lead - 1)` and `2 ^ (lead + 1)`.
    let lead : Int := (Nat.log2 num : Int) - (Nat.log2 den : Int)
    let low := max (lead - 53) (-1074)
    let top := (num * twoTo (-low).toNat) / (den * twoTo low.toNat)
    let e := if twoTo 53 ≤ top then low + 1 else low
    make? (roundDiv (num * twoTo (-e).toNat) (den * twoTo e.toNat)) e

def ofNat? (n : Nat) : Option Binary64 := ofRatio? n 1

def mul? (x y : Binary64) : Option Binary64 := ofRatio? (x.num * y.num) (x.den * y.den)

/-- The rounded quotient; the divisor is a power of ten here and never zero. -/
def div? (x y : Binary64) : Option Binary64 := ofRatio? (x.num * y.den) (x.den * y.num)

def maxPowerOfTen : Nat := 308

/-- `x * 10 ^ e`, by one rounded power of ten where that suffices. A smaller power is reached
in steps of the largest one; a larger one is out of range unless `x` is zero. -/
def scale? (x : Binary64) (e : Int) : Option Binary64 :=
  if e.natAbs ≤ maxPowerOfTen then do
    let p ← ofNat? (tenTo e.natAbs)
    if 0 ≤ e then mul? x p else div? x p
  else if x.mantissa = 0 then some x
  else if 0 ≤ e then none
  else do
    let p ← ofNat? (tenTo maxPowerOfTen)
    let y ← div? x p
    scale? y (e + maxPowerOfTen)
termination_by (-e).toNat
decreasing_by simp only [maxPowerOfTen] at *; omega

end Binary64

end ForeignCollections
