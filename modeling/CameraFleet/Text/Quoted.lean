import CameraFleet.Text.Octets

/-!
# Quoting

Texts that are shown to people are quoted so that they can be told from what
stands around them. In texts of octets every byte from 128 on counts as
unprintable.
-/

namespace CameraFleet
namespace Quoted

/-- Whether a character can be shown as it is. -/
def isPrintable (c : Char) : Bool :=
  ' ' ≤ c && c ≤ '~'

/-- A character as three octal digits. -/
def octal (c : Char) : List Char :=
  let digit (n : Nat) : Char := Char.ofNat ('0'.toNat + n % 8)
  [digit (c.toNat / 64), digit (c.toNat / 8), digit c.toNat]

/-- The letters of the control characters that have one. -/
def escapeLetters : List (Char × Char) :=
  [('\x07', 'a'), ('\x08', 'b'), ('\x0c', 'f'), ('\n', 'n'), ('\r', 'r'), ('\t', 't'), ('\x0b', 'v')]

/-- What follows the backslash for a character that cannot be shown as it is. -/
def escape? (c : Char) : Option (List Char) :=
  match escapeLetters.lookup c with
  | some letter => some [letter]
  | none => if isPrintable c then none else some (octal c)

/-- A text in single quotes; a quote, a backslash and what is unprintable follow a backslash. -/
def plain (text : Octets) : Octets :=
  let body := text.toList.flatMap fun c =>
    if c == '\'' || c == '\\' then ['\\', c]
    else
      match escape? c with
      | some code => '\\' :: code
      | none => [c]
  String.ofList ('\'' :: body ++ ['\''])

/-- A text in single quotes, in which what is unprintable is set apart. -/
def apart : Bool -> List Char -> List Char
  | _, [] => ['\'']
  | escaping, c :: rest =>
      match escape? c with
      | some code =>
          if escaping then '\\' :: code ++ apart true rest
          else ['\'', '$', '\'', '\\'] ++ code ++ apart true rest
      | none =>
          let body := if c == '\'' then ['\'', '\\', '\'', '\''] else [c]
          if escaping then ['\'', '\''] ++ body ++ apart false rest
          else body ++ apart false rest

/-- Whether a character keeps its meaning between double quotes. -/
def isTame (c : Char) : Bool :=
  c.isAlphanum || "%+,-./_:]@' ".toList.contains c

/-- A text as a word of the command language; double quotes are used around single ones. -/
def word (text : Octets) : Octets :=
  let chars := text.toList
  if chars.contains '\'' && chars.all isTame then String.ofList ('"' :: chars ++ ['"'])
  else String.ofList ('\'' :: apart false chars)

/-- Whether a character has a meaning in the command language. -/
def isSpecial (c : Char) : Bool :=
  "?\\ !\"$&()*;<=>[^`|'".toList.contains c || (escape? c).isSome

/-- Whether a text has to be quoted to be a word of the command language. -/
def needsQuotes (text : Octets) : Bool :=
  match text.toList with
  | [] | ['\x7b'] | ['\x7d'] => true
  | first :: rest => first == '#' || first == '~' || (first :: rest).any isSpecial

/-- A text as a word of the command language, in quotes only if it needs them. -/
def wordIfNeeded (text : Octets) : Octets :=
  if needsQuotes text then word text else text

end Quoted
end CameraFleet
