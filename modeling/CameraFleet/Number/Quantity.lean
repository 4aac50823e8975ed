import CameraFleet.Number.Binary64
import CameraFleet.Number.Numeral

/-!
# Numbers with fractions

A finite number is a quotient of two whole numbers and has a sign. It is written
with a fixed number of decimal places, with an exponent, or in whichever of
these two forms is shorter; half of the last place goes to the even neighbour.
-/

namespace CameraFleet

/-- A number, or something in its place. -/
inductive Quantity
  /-- A quotient. -/
  | finite (negative : Bool) (numerator denominator : Nat)
  /-- An infinite number. -/
  | infinite (negative : Bool)
  /-- No number. -/
  | undefined (negative : Bool)
  deriving Repr, DecidableEq

namespace Quantity

/-- A whole number. -/
def ofNat (n : Nat) : Quantity :=
  .finite false n 1

/-! ## Reading -/

/-- The greatest exponent that is taken at its word. -/
def exponentLimit : Nat := 5000

/-- A number times a power of a base. -/
def scaled
    (negative : Bool)
    (numerator denominator base : Nat)
    (exponent : Int) : Quantity :=
  match exponent with
  | .ofNat n =>
      if numerator = 0 then .finite negative 0 1
      else if exponentLimit < n then .infinite negative
      else .finite negative (numerator * Nat.pow base n) denominator
  | .negSucc n =>
      if exponentLimit < n then .finite negative 0 1
      else .finite negative numerator (denominator * Nat.pow base (n + 1))

/-- The exponent after one of two letters, and the characters after it. -/
def exponent? (letters chars : List Char) : Int × List Char :=
  match chars with
  | letter :: rest =>
      if letters.contains letter then
        let (negative, unsigned) :=
          match rest with
          | '-' :: rest => (true, rest)
          | '+' :: rest => (false, rest)
          | _ => (false, rest)
        match Numeral.digits 10 unsigned with
        | ([], _) => (0, chars)
        | (found, rest) =>
            let value := Numeral.valueOf 10 found
            (if negative then -(value : Int) else value, rest)
      else (0, chars)
  | [] => (0, [])

/-- The digits of a base with a point among them, and the characters after them. -/
def fraction?
    (base : Nat)
    (chars : List Char) : Option (Nat × Nat × List Char) :=
  let (whole, rest) := Numeral.digits base chars
  let (places, rest) :=
    match rest with
    | '.' :: after =>
        let (places, rest') := Numeral.digits base after
        if whole.isEmpty && places.isEmpty then ([], rest) else (places, rest')
    | _ => ([], rest)
  if whole.isEmpty && places.isEmpty then none
  else some (Numeral.valueOf base (whole ++ places), places.length, rest)

/-- The characters after a word that is given in small letters. -/
def afterWord? (word : String) (chars : List Char) : Option (List Char) :=
  if word.toList.isPrefixOf (chars.map Char.toLower) then some (chars.drop word.length) else none

/-- The number at the start of some characters, after blanks, and the characters after it. -/
def read? (chars : List Char) : Option (Quantity × List Char) :=
  let (negative, unsigned) := Numeral.sign chars
  let decimal : Option (Quantity × List Char) :=
    (fraction? 10 unsigned).map fun (digits, places, rest) =>
      let (exponent, rest) := exponent? ['e', 'E'] rest
      (scaled negative digits 1 10 (exponent - places), rest)
  let hexadecimal (rest : List Char) : Option (Quantity × List Char) :=
    (fraction? 16 rest).map fun (digits, places, rest) =>
      let (exponent, rest) := exponent? ['p', 'P'] rest
      (scaled negative digits 1 2 (exponent - 4 * places), rest)
  match unsigned with
  | '0' :: x :: rest =>
      if x == 'x' || x == 'X' then (hexadecimal rest).or decimal else decimal
  | _ =>
      match (afterWord? "infinity" unsigned).or (afterWord? "inf" unsigned) with
      | some rest => some (.infinite negative, rest)
      | none =>
          match afterWord? "nan" unsigned with
          | some rest => some (.undefined negative, rest)
          | none => decimal

/-- The number that a whole text stands for. -/
def ofText? (text : String) : Option Quantity :=
  match read? text.toList with
  | some (value, []) => some value
  | _ => none

/-! ## Rounding -/

/-- The number nearest to a quotient that has so many binary digits. -/
def round (bits : Nat) : Quantity -> Quantity
  | .finite negative numerator denominator =>
      if numerator = 0 then .finite negative 0 1
      else
        let excess : Int := (numerator.log2 : Int) - denominator.log2 - bits
        let scale (exponent : Int) : Nat × Nat :=
          match exponent with
          | .ofNat n => (numerator, denominator * Nat.pow 2 n)
          | .negSucc n => (numerator * Nat.pow 2 (n + 1), denominator)
        let exponent :=
          let (n, d) := scale excess
          if n < d * Nat.pow 2 bits then excess else excess + 1
        let (n, d) := scale exponent
        scaled negative (Number.roundDiv n d) 1 2 exponent
  | other => other

/-! ## Arithmetic -/

/-- A finite number as a quotient with a sign; others count as zero. -/
def quotient : Quantity -> Int × Nat
  | .finite negative numerator denominator =>
      (if negative then -(numerator : Int) else numerator, denominator)
  | _ => (0, 1)

/-- The finite number of a quotient. -/
def ofQuotient (numerator : Int) (denominator : Nat) : Quantity :=
  .finite (numerator < 0) numerator.natAbs denominator

/-- A finite number and so many times another one. -/
def plusTimes
    (first step : Quantity)
    (times : Nat) : Quantity :=
  let (a, b) := first.quotient
  let (c, d) := step.quotient
  ofQuotient (a * d + c * b * times) (b * d)

/-- Whether a finite number is less than another one. -/
def isLess (first second : Quantity) : Bool :=
  let (a, b) := first.quotient
  let (c, d) := second.quotient
  a * d < c * b

/-- The least whole number that is not less than a number without a sign, times a factor. -/
def ceiling (factor : Nat) : Quantity -> Nat
  | .finite _ numerator denominator =>
      (numerator * factor + denominator - 1) / denominator
  | _ => 0

/-- Whether something has a minus sign. -/
def isNegative : Quantity -> Bool
  | .finite negative _ _ | .infinite negative | .undefined negative => negative

/-! ## Writing -/

/-- A digit. -/
def digitChar (n : Nat) : Char :=
  Char.ofNat ('0'.toNat + n % 10)

/-- Some decimal digits with a point before the last ones. -/
def pointed
    (digits : String)
    (places : Nat)
    (keepsPoint : Bool) : String :=
  let chars := digits.toList
  let chars := List.replicate (places + 1 - chars.length) '0' ++ chars
  let whole := chars.take (chars.length - places)
  if places = 0 then String.ofList (if keepsPoint then whole ++ ['.'] else whole)
  else String.ofList (whole ++ '.' :: chars.drop (chars.length - places))

/-- A quotient with so many places. -/
def fixed
    (numerator denominator places : Nat)
    (keepsPoint : Bool) : String :=
  pointed (toString (Number.roundDiv (numerator * Nat.pow 10 places) denominator)) places keepsPoint

/-- A quotient over a power of ten. -/
def shifted
    (numerator denominator : Nat)
    (exponent : Int) : Nat × Nat :=
  match exponent with
  | .ofNat n => (numerator, denominator * Nat.pow 10 n)
  | .negSucc n => (numerator * Nat.pow 10 (n + 1), denominator)

/-- The exponent of the greatest power of ten that is no greater than a quotient. -/
def magnitude (numerator denominator : Nat) : Int :=
  let guess : Int := ((toString numerator).length : Int) - (toString denominator).length
  let (n, d) := shifted numerator denominator guess
  if n < d then guess - 1 else guess

/-- The digits of a quotient, of which there are `places + 1`, and its exponent. -/
def significant (numerator denominator places : Nat) : String × Int :=
  if numerator = 0 then (String.ofList (List.replicate (places + 1) '0'), 0)
  else
    let exponent := magnitude numerator denominator
    let (n, d) := shifted numerator denominator (exponent - places)
    let digits := toString (Number.roundDiv n d)
    if places + 1 < digits.length then
      (String.ofList (digits.toList.take (places + 1)), exponent + 1)
    else (digits, exponent)

/-- An exponent with its sign and at least two digits. -/
def exponentText (exponent : Int) : String :=
  let digits := toString exponent.natAbs
  (if exponent < 0 then "-" else "+") ++ (if digits.length < 2 then "0" ++ digits else digits)

/-- A quotient with an exponent and so many places. -/
def exponential
    (numerator denominator places : Nat)
    (keepsPoint : Bool) : String :=
  let (digits, exponent) := significant numerator denominator places
  pointed digits places keepsPoint ++ "e" ++ exponentText exponent

/-- A text without zeros at its end, and without a point there. -/
def trimZeros (text : String) : String :=
  if text.contains '.' then
    let kept := text.toList.reverse.dropWhile (· == '0')
    String.ofList (if kept.head? == some '.' then kept.drop 1 else kept).reverse
  else text

/-- A quotient with so many digits, in the shorter form. -/
def general
    (numerator denominator digits : Nat)
    (keepsZeros : Bool) : String :=
  let digits := max 1 digits
  let (figures, exponent) := significant numerator denominator (digits - 1)
  let trim (text : String) : String := if keepsZeros then text else trimZeros text
  if -4 ≤ exponent && exponent < digits then
    trim (fixed numerator denominator ((digits : Int) - 1 - exponent).toNat keepsZeros)
  else trim (pointed figures (digits - 1) keepsZeros) ++ "e" ++ exponentText exponent

/-- A hexadecimal digit. -/
def hexDigit (n : Nat) : Char :=
  "0123456789abcdef".toList.getD (n % 16) '0'

/-- A number in hexadecimal digits, so many at least. -/
def hexDigits : Nat -> Nat -> List Char
  | 0, _ => []
  | count + 1, n => hexDigits count (n / 16) ++ [hexDigit n]

/--
A quotient with hexadecimal digits and a binary exponent. The first digit takes
up so many bits, and there are so many digits after it.
-/
def hexadecimal
    (numerator denominator firstBits digits : Nat) : String :=
  if numerator = 0 then "0x0p+0"
  else
    let bits := firstBits + 4 * digits
    let excess : Int := (numerator.log2 : Int) - denominator.log2 - bits
    let scale (exponent : Int) : Nat × Nat :=
      match exponent with
      | .ofNat n => (numerator, denominator * Nat.pow 2 n)
      | .negSucc n => (numerator * Nat.pow 2 (n + 1), denominator)
    let exponent :=
      let (n, d) := scale excess
      if n < d * Nat.pow 2 bits then excess else excess + 1
    let (n, d) := scale exponent
    let mantissa := Number.roundDiv n d
    let text := String.ofList
      (hexDigit (mantissa / Nat.pow 16 digits) :: '.' :: hexDigits digits mantissa)
    let power := exponent + 4 * (digits : Int)
    let sign := if power < 0 then "-" else "+"
    s!"0x{trimZeros text}p{sign}{power.natAbs}"

end Quantity
end CameraFleet
