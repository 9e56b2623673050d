import ForeignCollections.Decimal.Binary64

/-!
The shortest decimal that reads back as a given binary64 magnitude. All reals nearer to the
magnitude than to its neighbours read back as it, and so do the two ends of that interval when
the mantissa is even. Of the decimals inside, the fewest digits win, then the nearest to the
magnitude, then the even last digit.
-/

namespace ForeignCollections

/-- The decimal `digits * 10 ^ exponent`. -/
structure Decimal where
  digits : Nat
  exponent : Int
  deriving DecidableEq

namespace Decimal

def trimZeros (d : Decimal) : Decimal :=
  if h : d.digits ≠ 0 ∧ d.digits % 10 = 0 then trimZeros ⟨d.digits / 10, d.exponent + 1⟩ else d
termination_by d.digits
decreasing_by exact Nat.div_lt_self (by omega) (by omega)

end Decimal

namespace Binary64

/-- Compares `a * 10 ^ k` with `b * 2 ^ q`. -/
def compareScaled (a : Nat) (k : Int) (b : Nat) (q : Int) : Ordering :=
  compare (a * tenTo k.toNat * twoTo (-q).toNat) (b * twoTo q.toNat * tenTo (-k).toNat)

/-- The lower end of the interval that reads back as `x`, in quarters of the last place. The
gap below a power of two is half as wide as the one above. -/
def lowerEnd (x : Binary64) : Nat :=
  if x.mantissa = twoTo 52 ∧ -1074 < x.exponent then 4 * x.mantissa - 1 else 4 * x.mantissa - 2

def upperEnd (x : Binary64) : Nat := 4 * x.mantissa + 2

/-- `a * 10 ^ k` reads back as `x`. -/
def readsBack (x : Binary64) (a : Nat) (k : Int) : Bool :=
  let low := compareScaled a k x.lowerEnd (x.exponent - 2)
  let high := compareScaled a k x.upperEnd (x.exponent - 2)
  if x.mantissa % 2 = 0 then low ≠ .lt && high ≠ .gt else low = .gt && high = .lt

def leadingExponent (x : Binary64) : Int :=
  if x.den ≤ x.num then ((Nat.toDigits 10 (x.num / x.den)).length : Int) - 1
  else
    let d := (Nat.toDigits 10 (x.den / x.num)).length
    if x.num * tenTo (d - 1) = x.den then 1 - (d : Int) else -(d : Int)

/-- The multiple of `10 ^ k` next to `x` that reads back as `x`, the nearer one if both do. -/
def onGrid? (x : Binary64) (k : Int) : Option Nat :=
  let a := (x.num * tenTo (-k).toNat) / (x.den * tenTo k.toNat)
  match readsBack x a k, readsBack x (a + 1) k with
  | false, false => none
  | true, false => some a
  | false, true => some (a + 1)
  | true, true =>
    match compareScaled (2 * a + 1) k (2 * x.mantissa) x.exponent with
    | .gt => some a
    | .lt => some (a + 1)
    | .eq => some (a + a % 2)

/-- The shortest decimal that reads back as `x`. Seventeen digits always suffice. -/
def shortest (x : Binary64) : Decimal :=
  let lead := x.leadingExponent
  let found := (List.range 17).findSome? fun (i : Nat) =>
    (x.onGrid? (lead - i)).map fun a => Decimal.trimZeros ⟨a, lead - i⟩
  found.getD ⟨0, 0⟩

end Binary64

end ForeignCollections
