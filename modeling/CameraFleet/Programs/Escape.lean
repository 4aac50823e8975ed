import CameraFleet.Number.Numeral
import CameraFleet.Number.Quantity
import CameraFleet.Text.Octets

/-!
# Escapes

A backslash and what follows it stand for a character. Which escapes there are
depends on where the text comes from; all dialects share the letters of the
control characters and octal numbers.
-/

namespace CameraFleet
namespace Programs

/-- Where a text with escapes stands. -/
inductive Dialect
  /-- An operand of the program that echoes its operands. -/
  | echo
  /-- The format of the program that prints by a format. -/
  | format
  /-- An operand whose escapes this format asks for. -/
  | operand
  /-- The format of the shell's own command. -/
  | shellFormat
  /-- An operand of the shell's own commands. -/
  | shellOperand
  /-- An operand of the echo of the extended shell. -/
  | fullEcho
  /-- The format of the extended shell's own command. -/
  | fullFormat
  /-- An operand whose escapes such a format asks for. -/
  | fullOperand
  /-- Quotes after a dollar sign. -/
  | quotes
  deriving Repr, DecidableEq

/-- What an escape stands for. -/
inductive Escape
  /-- A text. -/
  | text (text : Octets)
  /-- The end of all output. -/
  | stop
  /-- Nothing, for a number is missing. -/
  | missing
  deriving Repr, DecidableEq

namespace Escape

/-- The characters that letters stand for. -/
def letters : List (Char × Char) :=
  [('a', '\x07'), ('b', '\x08'), ('e', '\x1b'), ('f', '\x0c'), ('n', '\n'), ('r', '\r'),
    ('t', '\t'), ('v', '\x0b'), ('\\', '\\')]

/-- So many digits of a base at most, and the characters after them. -/
def digits
    (base : Nat) :
    Nat -> List Char -> List Nat × List Char
  | 0, chars => ([], chars)
  | _ + 1, [] => ([], [])
  | count + 1, c :: rest =>
      match (Numeral.digit? c).filter (· < base) with
      | some d =>
          let (others, rest) := digits base count rest
          (d :: others, rest)
      | none => ([], c :: rest)

/-- The byte of a number. -/
def byte (number : Nat) : Octets :=
  String.singleton (Char.ofNat (number % 256))

/-- The character of an octal number, and the characters after it. -/
def octal (most : Nat) (chars : List Char) : Escape × List Char :=
  let (found, rest) := digits 8 most chars
  (.text (byte (Numeral.valueOf 8 found)), rest)

/-- A character that may have no place among the bytes, by its number. -/
def unicode (number : Nat) : Escape :=
  let hex (count : Nat) : List Char := (Quantity.hexDigits count number).map Char.toUpper
  if number < 128 then .text (byte number)
  else if number < 65536 then .text (String.ofList ('\\' :: 'u' :: hex 4))
  else .text (String.ofList ('\\' :: 'U' :: hex 8))

/-- Whether a dialect is one of the extended shell. -/
def isFull (dialect : Dialect) : Bool :=
  dialect == .fullEcho || dialect == .fullFormat || dialect == .fullOperand || dialect == .quotes

/-- A character by its number in digits, in a dialect of the extended shell. -/
def fullUnicode (count : Nat) (c : Char) (rest : List Char) : Escape × List Char :=
  match digits 16 count rest with
  | ([], rest) => (.text (String.ofList ['\\', c]), rest)
  | (found, rest) => (unicode (Numeral.valueOf 16 found), rest)

/-- What the characters after a backslash stand for in a dialect of the extended shell. -/
def readFull (dialect : Dialect) (chars : List Char) : Escape × List Char :=
  match chars with
  | [] => (.text "\\", [])
  | c :: rest =>
      let unknown : Escape × List Char := (.text (String.ofList ['\\', c]), rest)
      let isQuotes := dialect == .quotes
      match letters.lookup (if c == 'E' then 'e' else c) with
      | some char => (.text (String.singleton char), rest)
      | none =>
          if c == '0' && (dialect == .fullEcho || dialect == .fullOperand) then octal 3 rest
          else if '0' ≤ c && c ≤ '7' && dialect != .fullEcho then octal 3 chars
          else if c == 'x' then
            match digits 16 2 rest with
            | ([], _) => unknown
            | (found, rest) => (.text (byte (Numeral.valueOf 16 found)), rest)
          else if c == 'u' then fullUnicode 4 c rest
          else if c == 'U' then fullUnicode 8 c rest
          else if c == 'c' then
            match dialect, rest with
            | .quotes, d :: rest => (.text (byte (d.toUpper.toNat % 32)), rest)
            | .fullEcho, _ | .fullOperand, _ => (.stop, rest)
            | _, _ => unknown
          else if "'\"?".toList.contains c && (isQuotes || dialect == .fullFormat) then
            (.text (String.singleton c), rest)
          else unknown

/-- What the characters after a backslash stand for, and the characters after those. -/
def readPlain (dialect : Dialect) (chars : List Char) : Escape × List Char :=
  match chars with
  | [] => (.text "\\", [])
  | c :: rest =>
      let unknown : Escape × List Char := (.text (String.ofList ['\\', c]), rest)
      let isProgram := dialect == .format || dialect == .operand
      match letters.lookup c with
      | some char => (.text (String.singleton char), rest)
      | none =>
          if c == '0' then
            match dialect with
            | .format | .shellFormat => octal 3 chars
            | .echo | .operand => octal 3 rest
            | _ =>
                if (rest.head?.any fun d => '0' ≤ d && d ≤ '7') then octal 3 rest
                else octal 3 chars
          else if '1' ≤ c && c ≤ '7' then octal 3 chars
          else if c == 'c' && dialect != .shellFormat then (.stop, rest)
          else if c == '"' && isProgram then (.text "\"", rest)
          else if c == 'x' && (isProgram || dialect == .echo) then
            match digits 16 2 rest with
            | ([], _) => if isProgram then (.missing, rest) else unknown
            | (found, rest) => (.text (byte (Numeral.valueOf 16 found)), rest)
          else if (c == 'u' || c == 'U') && isProgram then
            let count := if c == 'u' then 4 else 8
            let (found, rest) := digits 16 count rest
            if found.length < count then (.missing, rest)
            else (unicode (Numeral.valueOf 16 found), rest)
          else unknown

/-- What the characters after a backslash stand for, and the characters after those. -/
def read (dialect : Dialect) (chars : List Char) : Escape × List Char :=
  if isFull dialect then readFull dialect chars else readPlain dialect chars

/-- A text with its escapes replaced, and how it ends; the first number bounds the steps. -/
def replace (dialect : Dialect) : Nat -> List Char -> Octets -> Octets × Option Escape
  | 0, _, done => (done, none)
  | _ + 1, [], done => (done, none)
  | fuel + 1, '\\' :: rest, done =>
      match read dialect rest with
      | (.text found, rest) => replace dialect fuel rest (done ++ found)
      | (other, _) => (done, some other)
  | fuel + 1, c :: rest, done => replace dialect fuel rest (done.push c)

/-- A whole text with its escapes replaced, and how it ends. -/
def replaceAll (dialect : Dialect) (text : Octets) : Octets × Option Escape :=
  replace dialect (text.length + 1) text.toList ""

end Escape
end Programs
end CameraFleet
