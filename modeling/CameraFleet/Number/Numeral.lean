/-!
# Numerals

A numeral stands at the start of some characters: after a zero it is octal,
after a zero and an `x` hexadecimal, and else decimal. Numerals are read as far
as they go; what follows is left for the reader.
-/

namespace CameraFleet
namespace Numeral

/-- The value of a digit in any base up to sixteen. -/
def digit? (c : Char) : Option Nat :=
  if c.isDigit then some (c.toNat - '0'.toNat)
  else if 'a' ≤ c && c ≤ 'f' then some (c.toNat - 'a'.toNat + 10)
  else if 'A' ≤ c && c ≤ 'F' then some (c.toNat - 'A'.toNat + 10)
  else none

/-- The digits of a base at the start of some characters, and the characters after them. -/
def digits (base : Nat) : List Char -> List Nat × List Char
  | [] => ([], [])
  | c :: rest =>
      match (digit? c).filter (· < base) with
      | some d =>
          let (others, rest) := digits base rest
          (d :: others, rest)
      | none => ([], c :: rest)

/-- The number that some digits of a base stand for. -/
def valueOf (base : Nat) (digits : List Nat) : Nat :=
  digits.foldl (fun value d => value * base + d) 0

/-- The number at the start of some characters, and the characters after it. -/
def natural? (chars : List Char) : Option (Nat × List Char) :=
  match chars with
  | '0' :: x :: rest =>
      if x == 'x' || x == 'X' then
        match digits 16 rest with
        | ([], _) => some (0, x :: rest)
        | (found, rest) => some (valueOf 16 found, rest)
      else
        let (found, rest) := digits 8 (x :: rest)
        some (valueOf 8 found, rest)
  | _ =>
      match digits 10 chars with
      | ([], _) => none
      | (found, rest) => some (valueOf 10 found, rest)

/-- Whether a character is blank. -/
def isBlank (c : Char) : Bool :=
  " \t\n\x0b\x0c\r".toList.contains c

/-- Whether there is a minus sign after blanks, and the characters after the sign, if any. -/
def sign (chars : List Char) : Bool × List Char :=
  match chars.dropWhile isBlank with
  | '-' :: rest => (true, rest)
  | '+' :: rest => (false, rest)
  | rest => (false, rest)

/-- The number with a sign at the start of some characters, after blanks. -/
def integer? (chars : List Char) : Option (Int × List Char) :=
  let (negative, unsigned) := sign chars
  (natural? unsigned).map fun (value, rest) =>
    (if negative then -(value : Int) else value, rest)

end Numeral
end CameraFleet
