import Folio.Number.Decimal

/-! Binary floating-point numbers of 64 bits, kept as exact sign, significand and exponent. No
machine arithmetic is involved: a decimal is rounded to the nearest number by whole-number division,
a tie going to the even significand. -/
namespace Folio.Number

/-- A finite number is `significand * 2 ^ exponent`. It is in lowest form when the significand has
53 bits, or fewer at the least exponent. -/
inductive Binary64 where
  | nan
  | infinite (negative : Bool)
  | finite (negative : Bool) (significand : Nat) (exponent : Int)
  deriving DecidableEq

namespace Binary64

def leastExponent : Int := -1074

def greatestExponent : Int := 971

def zero (negative : Bool) : Binary64 := .finite negative 0 leastExponent

def isZero : Binary64 → Bool
  | .finite _ significand _ => significand == 0
  | _ => false

/-- The quotient rounded to the nearest whole number, halves to the even one. -/
def roundHalfEven (numerator denominator : Nat) : Nat :=
  let quotient := numerator / denominator
  let remainder := numerator % denominator
  if 2 * remainder < denominator then quotient
  else if denominator < 2 * remainder then quotient + 1
  else quotient + quotient % 2

/-- The exponent `k` with `2 ^ k ≤ numerator / denominator < 2 ^ (k + 1)`. -/
def binaryOrder (numerator denominator : Nat) : Int :=
  let guess : Int := (numerator.log2 : Int) - denominator.log2
  if numerator * twoTo (-guess).toNat < denominator * twoTo guess.toNat then guess - 1 else guess

/-- The number nearest to a quotient of positive whole numbers. -/
def ofRatio (negative : Bool) (numerator denominator : Nat) : Binary64 :=
  let exponent := max (binaryOrder numerator denominator - 52) leastExponent
  let significand :=
    roundHalfEven (numerator * twoTo (-exponent).toNat) (denominator * twoTo exponent.toNat)
  let (significand, exponent) :=
    if significand == twoTo 53 then (twoTo 52, exponent + 1) else (significand, exponent)
  if greatestExponent < exponent then .infinite negative else .finite negative significand exponent

/-- The number nearest to `coefficient * 10 ^ power`. Powers far outside the range are settled by
the size of the decimal alone. -/
def ofDecimal (negative : Bool) (coefficient : Nat) (power : Int) : Binary64 :=
  if coefficient == 0 then zero negative
  else
    let size : Int := (digits coefficient).length + power
    if 310 < size then .infinite negative
    else if size < -330 then zero negative
    else ofRatio negative (coefficient * tenTo power.toNat) (tenTo (-power).toNat)

def equalsInt (x : Binary64) (n : Int) : Bool :=
  match x with
  | .finite negative significand exponent =>
    let magnitude : Int := significand * twoTo exponent.toNat
    (if negative then -magnitude else magnitude) == n * twoTo (-exponent).toNat
  | _ => false

/-- Numerical equality: the two zeros are equal, and nothing equals the number that is none. -/
def equals : Binary64 → Binary64 → Bool
  | .finite negative significand exponent, .finite negative' significand' exponent' =>
    (significand == 0 && significand' == 0) ||
      (negative == negative' &&
        significand * twoTo (exponent - exponent').toNat ==
          significand' * twoTo (exponent' - exponent).toNat)
  | .infinite negative, .infinite negative' => negative == negative'
  | _, _ => false

end Binary64
end Folio.Number
