import CameraFleet.Number.Floating

/-!
# Exponential and circular functions

The functions are calculated with whole numbers that count parts of one, of
which there is a power of two. There are enough of them for the nearest number
of 53 binary digits to be found but for the rarest of cases.
-/

namespace CameraFleet
namespace Curves

/-! ## Fixed points -/

/-- The number of parts of one. -/
def unit (bits : Nat) : Int :=
  (Floating.scaleUp 1 bits : Nat)

/-- The product of two numbers of parts. -/
def times
    (bits : Nat)
    (a b : Int) : Int :=
  (a * b).shiftRight bits

/-- The quotient of two numbers of parts; the divisor is not zero. -/
def quotient
    (bits : Nat)
    (a b : Int) : Int :=
  (a * unit bits) / b

/-- A finite number as a number of parts. -/
def parts
    (bits : Nat)
    (negative : Bool)
    (n : Nat)
    (exponent : Int) : Int :=
  let shift := exponent + bits
  Floating.signed negative
    (if 0 ≤ shift then Floating.scaleUp n shift.toNat else n >>> (-shift).toNat)

/-- The number nearest to a number of parts. -/
def nearest (bits : Nat) (value : Int) : Floating :=
  Floating.nearest (value < 0) value.natAbs (-(bits : Int))

/--
The sum of a series: a term, and what every term is multiplied with to get the
next one, which is then divided by something that depends on its place.
-/
def series
    (bits : Nat)
    (factor : Int)
    (divide : Nat -> Int -> Int) : Nat -> Nat -> Int -> Int -> Int
  | 0, _, _, sum => sum
  | fuel + 1, place, term, sum =>
      if term == 0 || term == -1 then sum
      else
        let next := times bits term factor
        series bits factor divide fuel (place + 1) next (sum + divide place next)

/-- More terms than a series has. -/
def mostTerms (bits : Nat) : Nat :=
  2 * bits + 10

/-- The inverse hyperbolic tangent of a number of parts no greater than a third of one. -/
def inverseHyperbolicTangent (bits : Nat) (y : Int) : Int :=
  series bits (times bits y y) (fun place term => term / (2 * place + 1)) (mostTerms bits) 1 y y

/-- The inverse tangent of a number of parts no greater than a half of one. -/
def shortInverseTangent (bits : Nat) (y : Int) : Int :=
  series bits (-(times bits y y)) (fun place term => term / (2 * place + 1)) (mostTerms bits) 1 y y

/-- The natural logarithm of two. -/
def logTwo (bits : Nat) : Int :=
  2 * inverseHyperbolicTangent bits (unit bits / 3)

/-- Half the circumference of the unit circle. -/
def halfTurn (bits : Nat) : Int :=
  16 * shortInverseTangent bits (unit bits / 5) - 4 * shortInverseTangent bits (unit bits / 239)

/-! ## Exponentials -/

/-- The series of the exponential function for a number of parts less than one. -/
def exponentialSeries (bits : Nat) : Nat -> Nat -> Int -> Int -> Int -> Int
  | 0, _, _, _, sum => sum
  | fuel + 1, place, y, term, sum =>
      if term == 0 || term == -1 then sum
      else
        let next := times bits term y / (place : Int)
        exponentialSeries bits fuel (place + 1) y next (sum + next)

/-- The exponential function of a number of parts. -/
def exponentialOf (bits : Nat) (y : Int) : Floating :=
  let two := logTwo bits
  let turns := y / two
  let rest := y - turns * two
  let value := exponentialSeries bits (mostTerms bits) 1 rest (unit bits) (unit bits)
  Floating.nearest false value.natAbs (turns - bits)

/-- The natural logarithm of a number that is not zero, as a number of parts. -/
def logarithmOf
    (bits n : Nat)
    (exponent : Int) : Int :=
  let top := n.log2
  let scaled : Int := parts bits false n (-(top : Int))
  let y := quotient bits (scaled - unit bits) (scaled + unit bits)
  (exponent + top) * logTwo bits + 2 * inverseHyperbolicTangent bits y

/-- The parts of one that are usually enough. -/
def usualBits : Nat := 192

/-- Whether the exponential function of a number is neither zero nor infinite. -/
def hasExponential (n : Nat) (exponent : Int) : Bool :=
  (n.log2 : Int) + exponent ≤ 10

/-- The exponential function. -/
def exponential : Floating -> Floating
  | .undefined negative => .undefined negative
  | .infinite negative => if negative then .zero else .infinite false
  | .finite negative n exponent =>
      if n = 0 then .one
      else if hasExponential n exponent then
        exponentialOf usualBits (parts usualBits negative n exponent)
      else if negative then .zero
      else .infinite false

/-- The natural logarithm. -/
def logarithm : Floating -> Floating
  | .undefined negative => .undefined negative
  | .infinite negative => if negative then .undefined true else .infinite false
  | .finite negative n exponent =>
      if n = 0 then .infinite true
      else if negative then .undefined true
      else nearest usualBits (logarithmOf usualBits n exponent)

/-- A whole number to the power of another one, if it does not take up too many digits. -/
def wholePower?
    (n : Nat)
    (exponent : Int)
    (power : Nat) : Option (Nat × Int) :=
  if n = 1 then some (1, exponent * power)
  else if (n.log2 + 1) * power ≤ 8192 then some (Nat.pow n power, exponent * power)
  else none

/-- A power by way of the logarithm; it may get a minus sign. -/
def powerByLogarithm
    (n : Nat)
    (exponent : Int)
    (sign : Bool) : Floating -> Floating
  | .finite below m shift =>
      let bits := 2 * usualBits
      let product := times bits (logarithmOf bits n exponent) (parts bits below m shift)
      let value : Floating :=
        if unit bits * 800 < product then .infinite false
        else if product < -(unit bits * 800) then .zero
        else exponentialOf bits product
      if sign then value.negate else value
  | other => other

/-- Whether a number is an odd whole one. -/
def isOdd (number : Floating) : Bool :=
  number.toInt?.any fun whole => whole % 2 == 1

/-- A number that is neither zero nor infinite to the power of another one. -/
def finitePower
    (negative : Bool)
    (n : Nat)
    (exponent : Int)
    (power : Floating) : Floating :=
  let sign := negative && isOdd power
  match power.toInt? with
  | none => if negative then .undefined true else powerByLogarithm n exponent false power
  | some whole =>
      match wholePower? n exponent whole.natAbs with
      | some (digits, exponent) =>
          if 0 ≤ whole then Floating.nearest sign digits exponent
          else Floating.nearestQuotient sign 1 digits (-exponent)
      | none => powerByLogarithm n exponent sign power

/-- A number to the power of another one. -/
def power (base exponent : Floating) : Floating :=
  if exponent.isZero then .one
  else if base == .one then .one
  else
    match base, exponent with
    | .undefined negative, _ | _, .undefined negative => .undefined negative
    | .finite _ n e, .infinite below =>
        match Floating.compare? (.finite false n e) .one with
        | some .eq => .one
        | some .gt => if below then .zero else .infinite false
        | _ => if below then .infinite false else .zero
    | .infinite negative, exponent =>
        let sign := negative && isOdd exponent
        if exponent.isNegative then .finite sign 0 0 else .infinite sign
    | .finite negative n e, exponent =>
        if n = 0 then
          let sign := negative && isOdd exponent
          if exponent.isNegative then .infinite sign else .finite sign 0 0
        else finitePower negative n e exponent

/-! ## Circles -/

/-- The parts of one that are enough for a number, which may be very large or small. -/
def bitsFor (n : Nat) (exponent : Int) : Nat :=
  usualBits + ((n.log2 : Int) + exponent).natAbs

/-- The series of the sine or of the cosine, from a term on. -/
def circularSeries (bits : Nat) : Nat -> Nat -> Int -> Int -> Int -> Int
  | 0, _, _, _, sum => sum
  | fuel + 1, place, square, term, sum =>
      if term == 0 || term == -1 then sum
      else
        let next := -(times bits term square) / ((place * (place + 1) : Nat) : Int)
        circularSeries bits fuel (place + 2) square next (sum + next)

/-- The sine of a number of parts, some quarters of a turn added. -/
def sineOf
    (bits : Nat)
    (y quarters : Int) : Floating :=
  let quarter := halfTurn bits / 2
  let turns := (y + quarter / 2) / quarter
  let rest := y - turns * quarter
  let square := times bits rest rest
  let sine := circularSeries bits (mostTerms bits) 2 square rest rest
  let cosine := circularSeries bits (mostTerms bits) 1 square (unit bits) (unit bits)
  match ((turns + quarters).emod 4).toNat with
  | 0 => nearest bits sine
  | 1 => nearest bits cosine
  | 2 => nearest bits (-sine)
  | _ => nearest bits (-cosine)

/-- The sine. -/
def sine : Floating -> Floating
  | .finite negative n exponent =>
      if n = 0 then .finite negative 0 0
      else
        let bits := bitsFor n exponent
        sineOf bits (parts bits negative n exponent) 0
  | .infinite _ => .undefined true
  | other => other

/-- The cosine. -/
def cosine : Floating -> Floating
  | .finite negative n exponent =>
      if n = 0 then .one
      else
        let bits := bitsFor n exponent
        sineOf bits (parts bits negative n exponent) 1
  | .infinite _ => .undefined true
  | other => other

/-- The inverse tangent of a number of parts from zero to one. -/
def inverseTangentOf (bits : Nat) (y : Int) : Int :=
  let half := unit bits / 2
  if y ≤ half then shortInverseTangent bits y
  else
    let turned := quotient bits (y - half) (unit bits + times bits y half)
    shortInverseTangent bits half + shortInverseTangent bits turned

/-- The angle of a point, whose height and width are given without their signs. -/
def angleOf
    (bits : Nat)
    (height width : Nat) : Int :=
  if height ≤ width then
    inverseTangentOf bits ((Floating.scaleUp height bits : Nat) / (width : Int))
  else
    halfTurn bits / 2 - inverseTangentOf bits ((Floating.scaleUp width bits : Nat) / (height : Int))

/-- The angle of a point. -/
def angle (height width : Floating) : Floating :=
  let turn (negative : Bool) (bits : Nat) (value : Int) : Floating :=
    nearest bits (if negative then -value else value)
  match height, width with
  | .undefined negative, _ | _, .undefined negative => .undefined negative
  | .infinite a, .infinite b =>
      turn a usualBits ((if b then 3 else 1) * halfTurn usualBits / 4)
  | .infinite a, .finite _ _ _ => turn a usualBits (halfTurn usualBits / 2)
  | .finite a _ _, .infinite b =>
      if b then turn a usualBits (halfTurn usualBits) else .finite a 0 0
  | .finite a n e, .finite b m f =>
      if n = 0 then
        if b then turn a usualBits (halfTurn usualBits) else .finite a 0 0
      else if m = 0 then turn a usualBits (halfTurn usualBits / 2)
      else
        let gap := ((n.log2 : Int) + e - m.log2 - f).natAbs
        let bits := usualBits + min gap 1100
        let (n, m, _) := Floating.aligned n e m f
        let value := angleOf bits n m
        turn a bits (if b then halfTurn bits - value else value)

end Curves
end CameraFleet
