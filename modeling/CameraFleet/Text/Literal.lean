/-!
# Literals

A text as it is shown in a message about an argument: in quotes that it does not
contain, if possible, and with everything that cannot be seen spelled out.
-/

namespace CameraFleet
namespace Literal

/-- The letters of the control characters that have one. -/
def letters : List (Char × Char) :=
  [('\x08', 'b'), ('\t', 't'), ('\n', 'n'), ('\x0c', 'f'), ('\r', 'r')]

/-- A digit of a number in base 16. -/
def hexDigit (n : Nat) : Char :=
  Char.ofNat (if n < 10 then '0'.toNat + n else 'A'.toNat + (n - 10))

/-- A character as it is shown between some quotes. -/
def showChar (quote c : Char) : List Char :=
  match letters.lookup c with
  | some letter => ['\\', letter]
  | none =>
      if c == '\\' || (c == quote && quote == '\'') then ['\\', c]
      else if c.toNat < 32 || (127 ≤ c.toNat && c.toNat ≤ 159) then
        ['\\', 'x', hexDigit (c.toNat / 16), hexDigit (c.toNat % 16)]
      else [c]

/-- Whether a text has a dollar sign before an opening brace. -/
def hasHole : List Char -> Bool
  | '$' :: '{' :: _ => true
  | _ :: rest => hasHole rest
  | [] => false

/-- The quotes for a text. -/
def quoteFor (text : List Char) : Char :=
  if !text.contains '\'' then '\''
  else if !text.contains '"' then '"'
  else if !text.contains '\x60' && !hasHole text then '\x60'
  else '\''

/-- A text in quotes. -/
def quoted (text : List Char) : List Char :=
  let quote := quoteFor text
  quote :: text.flatMap (showChar quote) ++ [quote]

/-- The length from which on the lines of a text are shown apart, in units of 16 bits. -/
def longText : Nat := 124

/-- How much is shown at most, in units of 16 bits. -/
def mostShown : Nat := 128

/-- The units of 16 bits that a character takes. -/
def unitsOf (c : Char) : Nat :=
  if c.toNat < 65536 then 1 else 2

/-- The length of some characters in units of 16 bits. -/
def units (chars : List Char) : Nat :=
  chars.foldl (fun sum c => sum + unitsOf c) 0

/-- The first characters that fit into so many units of 16 bits. -/
def takeUnits : Nat -> List Char -> List Char
  | _, [] => []
  | room, c :: rest => if unitsOf c ≤ room then c :: takeUnits (room - unitsOf c) rest else []

/-- The lines of a text, each with its end. -/
def linesWithEnds : List Char -> List (List Char)
  | [] => []
  | c :: rest =>
      if c == '\n' then [c] :: linesWithEnds rest
      else
        match linesWithEnds rest with
        | [] => [[c]]
        | first :: others => (c :: first) :: others

/-- A text as it is shown; what is too long is cut off. -/
def shown (text : String) : String :=
  let chars := text.toList
  let whole :=
    if longText < units chars then
      List.intercalate " +\n  ".toList ((linesWithEnds chars).map quoted)
    else quoted chars
  if mostShown < units whole then String.ofList (takeUnits mostShown whole) ++ "..."
  else String.ofList whole

end Literal
end CameraFleet
