import CameraFleet.Number.Binary64

/-!
# Shortest decimals

A binary number is written with the fewest significant digits that read back as
the same number; of two such decimals the nearer is taken. Numbers from 10^-6
up to 10^21 are written by position, all others with an exponent.
-/

namespace CameraFleet
namespace Number

/-- A positive number with the ends of the interval of reals that are read as it. -/
structure Neighbourhood where
  /-- The common denominator. -/
  unit : Nat
  /-- The number, in units. -/
  value : Nat
  /-- The lower end, in units. -/
  lower : Nat
  /-- The upper end, in units. -/
  upper : Nat
  /-- Whether the ends are read as the number, too. -/
  closed : Bool

/-- The reals that are read as a binary number: halfway to its neighbours on either side. -/
def Binary64.neighbourhood (x : Binary64) : Neighbourhood :=
  let m := x.significand
  let scale := power 2 x.exponent
  let below := if m = power 2 52 && minExponent < x.exponent then 1 else 2
  { unit := 4 * power 2 (-x.exponent)
    value := 4 * m * scale
    lower := (4 * m - below) * scale
    upper := (4 * m + 2) * scale
    closed := m % 2 == 0 }

namespace Neighbourhood

/-- Whether a fraction `n / d` is read as the number. -/
def admits (near : Neighbourhood) (n d : Nat) : Bool :=
  let here := n * near.unit
  if near.closed then near.lower * d ≤ here && here ≤ near.upper * d
  else near.lower * d < here && here < near.upper * d

/-- The position of the leading digit: the number is less than ten to this power. -/
def leading (near : Neighbourhood) : Int :=
  let whole := near.value / near.unit
  if 0 < whole then (toString whole).length
  else
    let inverse := near.unit / near.value
    let guess := -((toString inverse).length : Int)
    if near.unit ≤ near.value * power 10 (-guess) then guess + 1 else guess

/-- The multiple of `10 ^ exponent` on the grid that is read as the number, if one is. -/
def onGrid? (near : Neighbourhood) (exponent : Int) : Option Nat :=
  let n := near.value * power 10 (-exponent)
  let d := near.unit * power 10 exponent
  let admitted (k : Nat) : Bool := near.admits (k * power 10 exponent) (power 10 (-exponent))
  let floor := n / d
  let upperIsNearer := d < 2 * (n % d) || (d == 2 * (n % d) && floor % 2 == 1)
  match admitted floor, admitted (floor + 1) with
  | true, true => some (if upperIsNearer then floor + 1 else floor)
  | true, false => some floor
  | false, true => some (floor + 1)
  | false, false => none

/-- The first grid that holds the number, from one significant digit to seventeen. -/
def shortestFrom (near : Neighbourhood) : Nat -> Nat -> Option (Nat × Int)
  | 0, _ => none
  | tries + 1, count =>
      let exponent := near.leading - count
      match near.onGrid? exponent with
      | some digits => some (digits, exponent)
      | none => near.shortestFrom tries (count + 1)

end Neighbourhood

/-- Digits without the zeros at their end, and the number of these zeros. -/
def splitZeros (digits : List Char) : List Char × Nat :=
  let kept := (digits.reverse.dropWhile (· == '0')).reverse
  (kept, digits.length - kept.length)

/-- Significant digits with a power of ten, by position or with an exponent. -/
def layOut (digits : List Char) (exponent : Int) : String :=
  let count : Int := digits.length
  let point := count + exponent
  let zeros (n : Int) : List Char := List.replicate n.toNat '0'
  if count ≤ point && point ≤ 21 then
    String.ofList (digits ++ zeros exponent)
  else if 0 < point && point ≤ 21 then
    String.ofList (digits.take point.toNat ++ ['.'] ++ digits.drop point.toNat)
  else if -6 < point && point ≤ 0 then
    String.ofList (['0', '.'] ++ zeros (-point) ++ digits)
  else
    let power := point - 1
    let sign := if 0 ≤ power then "+" else "-"
    let fraction := if digits.length ≤ 1 then [] else '.' :: digits.drop 1
    String.ofList (digits.take 1 ++ fraction) ++ "e" ++ sign ++ toString power.natAbs

/-- The text of a binary number. -/
def Binary64.text (x : Binary64) : String :=
  if x.significand = 0 then "0"
  else
    let sign := if x.negative then "-" else ""
    match x.neighbourhood.shortestFrom 17 1 with
    | some (n, exponent) =>
        let (digits, zeros) := splitZeros (toString n).toList
        sign ++ layOut digits (exponent + zeros)
    | none => sign

/-- The text of a decimal once it has been read as a binary number. -/
def Decimal.text (decimal : Decimal) : String :=
  match decimal.nearest? with
  | some x => x.text
  | none => if decimal.negative then "-Infinity" else "Infinity"

end Number
end CameraFleet
