/-!
# Nearest binary numbers

A decimal is read as the nearest binary number of 53 significant bits, ties
going to the even one, with exponents from -1074 on; from 2^1024 on it has no
finite value. Everything is exact arithmetic on natural numbers.
-/

namespace CameraFleet
namespace Number

/-- A decimal: its digits as one number, and the power of ten that scales them. -/
structure Decimal where
  /-- Whether a minus sign stands in front. -/
  negative : Bool := false
  /-- The digits, read as one number. -/
  digits : Nat
  /-- The power of ten. -/
  exponent : Int
  deriving Repr, DecidableEq

/-- The binary number `significand * 2 ^ exponent`, with a sign. -/
structure Binary64 where
  /-- Whether the number is negative. -/
  negative : Bool := false
  /-- The significant bits. -/
  significand : Nat
  /-- The power of two. -/
  exponent : Int
  deriving Repr, DecidableEq

/-- A power of a number; a negative exponent counts as zero. -/
def power (base : Nat) (exponent : Int) : Nat :=
  Nat.pow base exponent.toNat

/-- The least exponent of a binary number. -/
def minExponent : Int := -1074

/-- The quotient nearest to `n / d`; a tie goes to the even one. -/
def roundDiv (n d : Nat) : Nat :=
  let q := n / d
  let r := n % d
  if 2 * r < d then q
  else if d < 2 * r then q + 1
  else q + q % 2

/-- The fraction `n / d`, scaled by the power of two that `exponent` takes away. -/
def scaled (n d : Nat) (exponent : Int) : Nat × Nat :=
  (n * power 2 (-exponent), d * power 2 exponent)

/-- The exponent at which `n / d` has 53 bits before the point, or the least one. -/
def exponentOf (n d : Nat) : Int :=
  let guess := max minExponent ((n.log2 : Int) - d.log2 - 53)
  let (top, bottom) := scaled n d guess
  if power 2 53 ≤ top / bottom then guess + 1 else guess

/-- The binary number nearest to the fraction `n / d`, unless it is too large. -/
def nearestFraction
    (negative : Bool)
    (n d : Nat) : Option Binary64 :=
  let exponent := exponentOf n d
  let (top, bottom) := scaled n d exponent
  let significand := roundDiv top bottom
  if 971 < exponent || (exponent == 971 && power 2 53 ≤ significand) then none
  else some { negative, significand, exponent }

/-- The least position of a leading digit that is too large for any binary number. -/
def decimalLimit : Int := 310

/-- The binary number nearest to a decimal; none if it is too large. -/
def Decimal.nearest? (decimal : Decimal) : Option Binary64 :=
  let digits := decimal.digits
  let top := (toString digits).length + decimal.exponent
  if digits = 0 || top < -decimalLimit - 20 then
    some { negative := decimal.negative, significand := 0, exponent := 0 }
  else if decimalLimit < top then none
  else
    nearestFraction decimal.negative
      (digits * power 10 decimal.exponent) (power 10 (-decimal.exponent))

/-- The integer that a binary number is, if it is one. -/
def Binary64.toInt? (x : Binary64) : Option Int :=
  let unit := power 2 (-x.exponent)
  if x.significand % unit = 0 then
    let n := x.significand / unit * power 2 x.exponent
    some (if x.negative then -(n : Int) else n)
  else none

/-- The integer that a decimal is once it has been read as a binary number. -/
def Decimal.toInt? (decimal : Decimal) : Option Int :=
  decimal.nearest?.bind Binary64.toInt?

end Number
end CameraFleet
