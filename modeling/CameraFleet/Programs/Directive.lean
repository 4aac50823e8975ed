import CameraFleet.Number.Quantity
import CameraFleet.Text.Octets

/-!
# Directives

A directive of a format says how a text or a number is written: its width, its
precision, and how it is filled up.
-/

namespace CameraFleet
namespace Programs

/-- A directive. -/
structure Directive where
  /-- The characters of its flags. -/
  flags : List Char := []
  /-- The least number of characters. -/
  width : Nat := 0
  /-- The precision, if one is given. -/
  precision : Option Nat := none
  /-- The letter that says what is written. -/
  conversion : Char
  deriving Repr, DecidableEq

namespace Directive

/-- Whether a flag is given. -/
def has (directive : Directive) (flag : Char) : Bool :=
  directive.flags.contains flag

/-- Fill up a text that has a sign, or the like, in front. -/
def fill
    (directive : Directive)
    (mayHaveZeros : Bool)
    (front body : Octets) : Octets :=
  let missing := directive.width - (front.length + body.length)
  let padding (c : Char) : Octets := String.ofList (List.replicate missing c)
  if directive.has '-' then front ++ body ++ padding ' '
  else if directive.has '0' && mayHaveZeros then front ++ padding '0' ++ body
  else padding ' ' ++ front ++ body

/-- Write a text. -/
def text (directive : Directive) (text : Octets) : Octets :=
  let kept :=
    match directive.precision with
    | some most => String.ofList (text.toList.take most)
    | none => text
  directive.fill false "" kept

/-- Write a character. -/
def char (directive : Directive) (text : Octets) : Octets :=
  directive.fill false "" text

/-- The sign of a number that is written. -/
def sign (directive : Directive) (negative : Bool) : Octets :=
  if negative then "-"
  else if directive.has '+' then "+"
  else if directive.has ' ' then " "
  else ""

/-- The values of 64 bits. -/
def modulus : Nat := 18446744073709551616

/-- A number in octal digits. -/
def octalDigits (n : Nat) : Octets :=
  String.ofList (Nat.toDigits 8 n)

/-- A number in hexadecimal digits. -/
def hexadecimalDigits (n : Nat) : Octets :=
  String.ofList (Nat.toDigits 16 n)

/-- Write a whole number. -/
def integer (directive : Directive) (value : Int) : Octets :=
  let unsigned := (value.emod modulus).toNat
  let (front, digits) :=
    match directive.conversion with
    | 'o' => ("", octalDigits unsigned)
    | 'u' => ("", toString unsigned)
    | 'x' =>
        (if directive.has '#' && unsigned != 0 then "0x" else "", hexadecimalDigits unsigned)
    | 'X' =>
        (if directive.has '#' && unsigned != 0 then "0X" else "",
          (hexadecimalDigits unsigned).toUpper)
    | _ => (directive.sign (value < 0), toString value.natAbs)
  let digits :=
    match directive.precision with
    | some least =>
        if least = 0 && value == 0 then ""
        else String.ofList (List.replicate (least - digits.length) '0') ++ digits
    | none => digits
  let digits :=
    if directive.conversion == 'o' && directive.has '#' && !digits.startsWith "0" then
      "0" ++ digits
    else digits
  directive.fill directive.precision.isNone front digits

/-- Write a number with a fraction, in the way of numbers of so many bits. -/
def real
    (directive : Directive)
    (bits : Nat)
    (value : Quantity) : Octets :=
  let places := directive.precision.getD 6
  let keeps := directive.has '#'
  let upper (text : Octets) : Octets :=
    if directive.conversion.isUpper then text.toUpper else text
  match value.round bits with
  | .infinite negative => directive.fill false (directive.sign negative) (upper "inf")
  | .undefined negative => directive.fill false (directive.sign negative) (upper "nan")
  | .finite negative numerator denominator =>
      let body :=
        match directive.conversion.toLower with
        | 'f' => Quantity.fixed numerator denominator places keeps
        | 'e' => Quantity.exponential numerator denominator places keeps
        | 'a' =>
            if bits == 64 then Quantity.hexadecimal numerator denominator 4 15
            else Quantity.hexadecimal numerator denominator 1 13
        | _ => Quantity.general numerator denominator places keeps
      directive.fill true (directive.sign negative) (upper body)

end Directive

/-- A directive as it is written: an asterisk in place of a number asks for an operand. -/
structure DirectiveText where
  /-- The characters of the flags. -/
  flags : List Char
  /-- The width; none for an asterisk. -/
  width : Option Nat
  /-- The precision, if one is given; an inner none for an asterisk. -/
  precision : Option (Option Nat)
  /-- The characters from the conversion on. -/
  rest : List Char

/-- The number at the start of some characters, or an asterisk, and the characters after it. -/
def numberOrAsterisk (chars : List Char) : Option Nat × List Char :=
  match chars with
  | '*' :: rest => (none, rest)
  | _ =>
      let (digits, rest) := Numeral.digits 10 chars
      (some (Numeral.valueOf 10 digits), rest)

/-- Read the flags, the width and the precision of a directive. -/
def DirectiveText.read (flags chars : List Char) : DirectiveText :=
  let given := chars.takeWhile flags.contains
  let (width, rest) := numberOrAsterisk (chars.dropWhile flags.contains)
  match rest with
  | '.' :: after =>
      let (precision, rest) := numberOrAsterisk after
      { flags := given, width, precision := some precision, rest }
  | _ => { flags := given, width, precision := none, rest }

end Programs
end CameraFleet
