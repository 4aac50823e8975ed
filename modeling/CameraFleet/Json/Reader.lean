import CameraFleet.Json.Value

/-!
# Reading JSON

The reader takes the strict grammar: no comments, no trailing commas, no
control characters in strings, no leading zeros, and nothing but blanks around
the one value. Half of a surrogate pair stands for no character and is read as
the replacement character.

The parsers are functions on the remaining characters. Each step of the
recursion takes up a character before it goes deeper, so a number of steps
proportional to the length of the text suffices.
-/

namespace CameraFleet
namespace Json
namespace Reader

/-- Blanks between tokens. -/
def isBlank (c : Char) : Bool :=
  c == ' ' || c == '\t' || c == '\n' || c == '\r'

/-- The text after the blanks at its start. -/
def skipBlanks (text : List Char) : List Char :=
  text.dropWhile isBlank

/-- The value of a hexadecimal digit. -/
def hexDigit? (c : Char) : Option Nat :=
  if '0' ≤ c && c ≤ '9' then some (c.toNat - '0'.toNat)
  else if 'a' ≤ c && c ≤ 'f' then some (c.toNat - 'a'.toNat + 10)
  else if 'A' ≤ c && c ≤ 'F' then some (c.toNat - 'A'.toNat + 10)
  else none

/-- Four hexadecimal digits and the text after them. -/
def hex4? : List Char -> Option (Nat × List Char)
  | a :: b :: c :: d :: rest => do
      let a ← hexDigit? a
      let b ← hexDigit? b
      let c ← hexDigit? c
      let d ← hexDigit? d
      pure (((a * 16 + b) * 16 + c) * 16 + d, rest)
  | _ => none

/-- Whether a unit is the first half of a surrogate pair. -/
def isHighHalf (unit : Nat) : Bool :=
  0xD800 ≤ unit && unit < 0xDC00

/-- Whether a unit is the second half of a surrogate pair. -/
def isLowHalf (unit : Nat) : Bool :=
  0xDC00 ≤ unit && unit < 0xE000

/-- The character of a 16-bit unit; a lone half is replaced. -/
def unitChar (unit : Nat) : Char :=
  if isHighHalf unit || isLowHalf unit then '\uFFFD' else Char.ofNat unit

/-- A unit with the text after it, as a character: a pair of halves is joined. -/
def joinUnits (unit : Nat) (rest : List Char) : Char × List Char :=
  let alone := (unitChar unit, rest)
  if isHighHalf unit then
    match rest with
    | '\\' :: 'u' :: more =>
        match hex4? more with
        | some (second, after) =>
            if isLowHalf second then
              (Char.ofNat (0x10000 + (unit - 0xD800) * 1024 + (second - 0xDC00)), after)
            else alone
        | none => alone
    | _ => alone
  else alone

/-- The character of an escape sequence after its backslash, and the text after it. -/
def escape? : List Char -> Option (Char × List Char)
  | '"' :: rest => some ('"', rest)
  | '\\' :: rest => some ('\\', rest)
  | '/' :: rest => some ('/', rest)
  | 'b' :: rest => some ('\x08', rest)
  | 'f' :: rest => some ('\x0c', rest)
  | 'n' :: rest => some ('\n', rest)
  | 'r' :: rest => some ('\r', rest)
  | 't' :: rest => some ('\t', rest)
  | 'u' :: rest => do
      let (unit, rest) ← hex4? rest
      pure (joinUnits unit rest)
  | _ => none

/-- The rest of a string after its opening quote; `read` holds what was read, in reverse. -/
def stringTail? : Nat -> List Char -> List Char -> Option (String × List Char)
  | 0, _, _ => none
  | _ + 1, _, [] => none
  | steps + 1, read, c :: rest =>
      if c == '"' then some (String.ofList read.reverse, rest)
      else if c == '\\' then
        match escape? rest with
        | some (c, rest) => stringTail? steps (c :: read) rest
        | none => none
      else if c.toNat < 0x20 then none
      else stringTail? steps (c :: read) rest

/-- Digits at the start of a text, and the text after them. -/
def spanDigits (text : List Char) : List Char × List Char :=
  (text.takeWhile Char.isDigit, text.dropWhile Char.isDigit)

/-- The number that decimal digits write. -/
def digitsValue (digits : List Char) : Nat :=
  digits.foldl (fun n c => n * 10 + (c.toNat - '0'.toNat)) 0

/-- The digits before the point: a zero stands alone. -/
def wholePart? (text : List Char) : Option (List Char × List Char) :=
  match text with
  | '0' :: rest => some (['0'], rest)
  | _ =>
      let (digits, rest) := spanDigits text
      if digits.isEmpty then none else some (digits, rest)

/-- The digits after the point, if there is one. -/
def fractionPart? (text : List Char) : Option (List Char × List Char) :=
  match text with
  | '.' :: rest =>
      let (digits, rest) := spanDigits rest
      if digits.isEmpty then none else some (digits, rest)
  | _ => some ([], text)

/-- The power of ten after the letter, if there is one. -/
def exponentPart? (text : List Char) : Option (Int × List Char) :=
  let signed (sign : Int) (text : List Char) : Option (Int × List Char) :=
    let (digits, rest) := spanDigits text
    if digits.isEmpty then none else some (sign * digitsValue digits, rest)
  match text with
  | c :: rest =>
      if c == 'e' || c == 'E' then
        match rest with
        | '-' :: rest => signed (-1) rest
        | '+' :: rest => signed 1 rest
        | _ => signed 1 rest
      else some (0, text)
  | [] => some (0, [])

/-- A number and the text after it. -/
def number? (text : List Char) : Option (Number.Decimal × List Char) := do
  let (negative, text) :=
    match text with
    | '-' :: rest => (true, rest)
    | _ => (false, text)
  let (whole, text) ← wholePart? text
  let (fraction, text) ← fractionPart? text
  let (power, text) ← exponentPart? text
  pure ({ negative
          digits := digitsValue (whole ++ fraction)
          exponent := power - fraction.length }, text)

/-- The text after a word at its start. -/
def word? (word : String) (text : List Char) : Option (List Char) :=
  if word.toList.isPrefixOf text then some (text.drop word.length) else none

mutual

/-- A value and the text after it; the text starts with the value. -/
def value? : Nat -> List Char -> Option (Json × List Char)
  | 0, _ => none
  | steps + 1, text =>
      match text with
      | '"' :: rest =>
          (stringTail? (rest.length + 1) [] rest).map fun (text, rest) => (.string text, rest)
      | '[' :: rest =>
          match skipBlanks rest with
          | ']' :: rest => some (.array [], rest)
          | rest => items? steps [] rest
      | '{' :: rest =>
          match skipBlanks rest with
          | '}' :: rest => some (.object [], rest)
          | rest => members? steps [] rest
      | 't' :: _ => (word? "true" text).map (.bool true, ·)
      | 'f' :: _ => (word? "false" text).map (.bool false, ·)
      | 'n' :: _ => (word? "null" text).map (.null, ·)
      | _ => (number? text).map fun (n, rest) => (.number n, rest)

/-- The items of an array up to its end; `read` holds those before, last one first. -/
def items? : Nat -> List Json -> List Char -> Option (Json × List Char)
  | 0, _, _ => none
  | steps + 1, read, text => do
      let (item, rest) ← value? steps (skipBlanks text)
      match skipBlanks rest with
      | ',' :: rest => items? steps (item :: read) rest
      | ']' :: rest => some (.array (item :: read).reverse, rest)
      | _ => none

/-- The members of an object up to its end; `read` holds those before, last one first. -/
def members? : Nat -> List (String × Json) -> List Char -> Option (Json × List Char)
  | 0, _, _ => none
  | steps + 1, read, text =>
      match skipBlanks text with
      | '"' :: rest => do
          let (name, rest) ← stringTail? (rest.length + 1) [] rest
          match skipBlanks rest with
          | ':' :: rest =>
              let (value, rest) ← value? steps (skipBlanks rest)
              match skipBlanks rest with
              | ',' :: rest => members? steps ((name, value) :: read) rest
              | '}' :: rest => some (.object ((name, value) :: read).reverse, rest)
              | _ => none
          | _ => none
      | _ => none

end

end Reader

/-- Read the one value of a text. -/
def parse? (text : String) : Option Json :=
  let text := text.toList
  match Reader.value? (2 * text.length + 2) (Reader.skipBlanks text) with
  | some (value, rest) => if (Reader.skipBlanks rest).isEmpty then some value else none
  | none => none

end Json
end CameraFleet
