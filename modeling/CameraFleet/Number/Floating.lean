import CameraFleet.Number.Quantity

/-!
# Numbers of 53 binary digits

A finite number is a whole number times a power of two. The result of a
calculation is the number nearest to the exact one; half of the last place goes
to the even neighbour. What is too large is infinite.
-/

namespace CameraFleet

/-- A number of 53 binary digits, or something in its place. -/
inductive Floating
  /-- A whole number times a power of two. -/
  | finite (negative : Bool) (digits : Nat) (exponent : Int)
  /-- An infinite number. -/
  | infinite (negative : Bool)
  /-- No number. -/
  | undefined (negative : Bool)
  deriving Repr, DecidableEq

namespace Floating

/-- The number of binary digits. -/
def precision : Nat := 53

/-- The power of two that no number reaches. -/
def topExponent : Int := 1024

/-- The exponent of the smallest number. -/
def leastExponent : Int := -1074

/-- A number times a power of two. -/
def scaleUp (n count : Nat) : Nat :=
  n <<< count

/-! ## Rounding -/

/-- The number nearest to a whole number times a power of two. -/
def nearest
    (negative : Bool)
    (n : Nat)
    (exponent : Int) : Floating :=
  if n = 0 then .finite negative 0 0
  else
    let excess : Int := max ((n.log2 : Int) + 1 - precision) (leastExponent - exponent)
    let (kept, exponent) :=
      if excess ≤ 0 then (n, exponent)
      else (Number.roundDiv n (scaleUp 1 excess.toNat), exponent + excess)
    if kept = 0 then .finite negative 0 0
    else if topExponent < (kept.log2 : Int) + 1 + exponent then .infinite negative
    else .finite negative kept exponent

/-- The number nearest to a quotient times a power of two; the divisor is not zero. -/
def nearestQuotient
    (negative : Bool)
    (n d : Nat)
    (exponent : Int) : Floating :=
  if n % d = 0 then nearest negative (n / d) exponent
  else
    let shift := d.log2 + precision + 3 - n.log2
    let scaled := scaleUp n shift
    let odd := if scaled % d = 0 then 0 else 1
    nearest negative (2 * (scaled / d) + odd) (exponent - shift - 1)

/-- A whole number. -/
def ofInt (n : Int) : Floating :=
  nearest (n < 0) n.natAbs 0

/-- A whole number without a sign. -/
def ofNat (n : Nat) : Floating :=
  nearest false n 0

/-- The number nearest to a quantity. -/
def ofQuantity : Quantity -> Floating
  | .finite negative n d => if d = 0 then .undefined negative else nearestQuotient negative n d 0
  | .infinite negative => .infinite negative
  | .undefined negative => .undefined negative

/-- A number as a quantity. -/
def quantity : Floating -> Quantity
  | .finite negative n (.ofNat e) => .finite negative (scaleUp n e) 1
  | .finite negative n (.negSucc e) => .finite negative n (scaleUp 1 (e + 1))
  | .infinite negative => .infinite negative
  | .undefined negative => .undefined negative

/-! ## Arithmetic -/

/-- Zero. -/
def zero : Floating := .finite false 0 0

/-- One. -/
def one : Floating := .finite false 1 0

/-- Whether a number is zero. -/
def isZero : Floating -> Bool
  | .finite _ n _ => n = 0
  | _ => false

/-- Whether there is a minus sign. -/
def isNegative : Floating -> Bool
  | .finite negative _ _ | .infinite negative | .undefined negative => negative

/-- The number with the other sign. -/
def negate : Floating -> Floating
  | .finite negative n e => .finite (!negative) n e
  | .infinite negative => .infinite (!negative)
  | .undefined negative => .undefined (!negative)

/-- Two finite numbers over one power of two: what they are multiplied with, and the power. -/
def aligned
    (n : Nat)
    (e : Int)
    (m : Nat)
    (f : Int) : Nat × Nat × Int :=
  let least := min e f
  (scaleUp n (e - least).toNat, scaleUp m (f - least).toNat, least)

/-- A whole number with a sign. -/
def signed (negative : Bool) (n : Nat) : Int :=
  if negative then -(n : Int) else n

/-- The sum of two numbers. -/
def add : Floating -> Floating -> Floating
  | .undefined negative, _ | _, .undefined negative => .undefined negative
  | .infinite a, .infinite b => if a == b then .infinite a else .undefined true
  | .infinite a, _ | _, .infinite a => .infinite a
  | .finite a n e, .finite b m f =>
      let (n, m, exponent) := aligned n e m f
      let sum := signed a n + signed b m
      if sum = 0 then .finite (a && b) 0 0 else nearest (sum < 0) sum.natAbs exponent

/-- The difference of two numbers. -/
def sub (first second : Floating) : Floating :=
  add first second.negate

/-- The product of two numbers. -/
def mul : Floating -> Floating -> Floating
  | .undefined negative, _ | _, .undefined negative => .undefined negative
  | .infinite a, .infinite b => .infinite (a != b)
  | .infinite a, .finite b n _ | .finite b n _, .infinite a =>
      if n = 0 then .undefined true else .infinite (a != b)
  | .finite a n e, .finite b m f => nearest (a != b) (n * m) (e + f)

/-- The quotient of two numbers. -/
def div : Floating -> Floating -> Floating
  | .undefined negative, _ | _, .undefined negative => .undefined negative
  | .infinite _, .infinite _ => .undefined true
  | .infinite a, .finite b _ _ => .infinite (a != b)
  | .finite a _ _, .infinite b => .finite (a != b) 0 0
  | .finite a n e, .finite b m f =>
      if m = 0 then (if n = 0 then .undefined true else .infinite (a != b))
      else nearestQuotient (a != b) n m (e - f)

/-- What is left of a number after taking away another one as often as possible. -/
def rem : Floating -> Floating -> Floating
  | .undefined negative, _ | _, .undefined negative => .undefined negative
  | .infinite _, _ => .undefined true
  | first, .infinite _ => first
  | .finite a n e, .finite _ m f =>
      if m = 0 then .undefined true
      else
        let (n, m, exponent) := aligned n e m f
        nearest a (n % m) exponent

/-- How two numbers compare, if they do. -/
def compare? : Floating -> Floating -> Option Ordering
  | .undefined _, _ | _, .undefined _ => none
  | .infinite a, .infinite b => some (compare b.toNat a.toNat)
  | .infinite a, .finite _ _ _ => some (if a then .lt else .gt)
  | .finite _ _ _, .infinite b => some (if b then .gt else .lt)
  | .finite a n e, .finite b m f =>
      let (n, m, _) := aligned n e m f
      some (compare (signed a n) (signed b m))

/-- The whole part of a finite number. -/
def whole? : Floating -> Option Int
  | .finite negative n (.ofNat e) => some (signed negative (scaleUp n e))
  | .finite negative n (.negSucc e) => some (signed negative (n >>> (e + 1)))
  | _ => none

/-- The number without its fraction. -/
def truncate (number : Floating) : Floating :=
  match number, number.whole? with
  | .finite negative _ _, some whole => nearest negative whole.natAbs 0
  | _, _ => number

/-- The number as a whole one, if it is one. -/
def toInt? (number : Floating) : Option Int :=
  number.whole?.filter fun whole => compare? (ofInt whole) number == some .eq

/-! ## Roots -/

/-- The whole part of a square root, sought from a number that is no less; there are so many steps. -/
def rootFrom : Nat -> Nat -> Nat -> Nat
  | 0, _, guess => guess
  | fuel + 1, n, guess =>
      let next := (guess + n / guess) / 2
      if next < guess then rootFrom fuel n next else guess

/-- The whole part of a square root. -/
def wholeRoot (n : Nat) : Nat :=
  if n = 0 then 0 else rootFrom (n.log2 + 2) n (scaleUp 1 (n.log2 / 2 + 1))

/-- The square root of a number. -/
def squareRoot : Floating -> Floating
  | .undefined negative => .undefined negative
  | .infinite negative => if negative then .undefined true else .infinite false
  | .finite negative n e =>
      if n = 0 then .finite negative 0 0
      else if negative then .undefined true
      else
        let shift := 2 * precision + 4 + (e.emod 2).toNat
        let scaled := scaleUp n shift
        let root := wholeRoot scaled
        let odd := if root * root = scaled then 0 else 1
        nearest false (2 * root + odd) ((e - shift) / 2 - 1)

end Floating
end CameraFleet
