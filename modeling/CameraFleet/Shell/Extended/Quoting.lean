import CameraFleet.Number.Quantity
import CameraFleet.Shell.Token
import CameraFleet.Text.Octets

/-!
# Quoting and rendering

Ways in which the extended shell writes a text so that it can be read again.
Complaints and traces show some words as they stand in the script: what was in
quotes is shown in quotes, though not always in the same ones.
-/

namespace CameraFleet
namespace Shell
namespace Quoting

/-- Whether a character is written by an escape. -/
def isUnprintable (c : Char) : Bool :=
  c < ' ' || '~' < c

/-- Whether a text has characters that are written by escapes. -/
def needsEscapes (text : Octets) : Bool :=
  text.toList.any isUnprintable

/-- The escape of a character between quotes after a dollar sign. -/
def escaped (c : Char) : List Char :=
  let letters : List (Char × Char) :=
    [('\x1b', 'E'), ('\x07', 'a'), ('\x08', 'b'), ('\x0c', 'f'), ('\n', 'n'), ('\r', 'r'),
      ('\t', 't'), ('\x0b', 'v'), ('\\', '\\'), ('\'', '\'')]
  match letters.lookup c with
  | some letter => ['\\', letter]
  | none =>
      if isUnprintable c then
        let digit (n : Nat) : Char := Char.ofNat ('0'.toNat + n % 8)
        ['\\', digit (c.toNat / 64), digit (c.toNat / 8), digit c.toNat]
      else [c]

/-- A text between quotes after a dollar sign. -/
def withEscapes (text : Octets) : Octets :=
  String.ofList ('$' :: '\'' :: text.toList.flatMap escaped ++ ['\''])

/-- A text between single quotes. -/
def single (text : Octets) : Octets :=
  if text == "'" then "\\'"
  else
    let inner := text.toList.flatMap fun c => if c == '\'' then "'\\''".toList else [c]
    String.ofList ('\'' :: inner ++ ['\''])

/-- A text between double quotes, or with escapes if it needs them. -/
def double (text : Octets) : Octets :=
  if needsEscapes text then withEscapes text
  else
    let inner := text.toList.flatMap fun c =>
      if "\"\\$\x60".toList.contains c then ['\\', c] else [c]
    String.ofList ('"' :: inner ++ ['"'])

/-- A text in quotes of some kind. -/
def always (text : Octets) : Octets :=
  if text.isEmpty then "''"
  else if needsEscapes text then withEscapes text
  else
    let inner := text.toList.flatMap fun c => if c == '\'' then "'\\''".toList else [c]
    String.ofList ('\'' :: inner ++ ['\''])

/-- The characters that have a meaning of their own. -/
def special : List Char :=
  " \t\n'\"\\|&;()<>!\x7b\x7d*[?]^$\x60".toList

/-- Whether some characters start with one that has a meaning there. -/
def startsSpecially (chars : List Char) : Bool :=
  chars.head?.any fun c => c == '~' || c == '#'

/-- Whether a text has something with a meaning of its own. -/
def isSpecial (text : Octets) : Bool :=
  startsSpecially text.toList || text.toList.any special.contains

/-- A text in quotes if it needs them. -/
def whereNeeded (text : Octets) : Octets :=
  if needsEscapes text then withEscapes text
  else if isSpecial text then single text
  else text

/-- A word of a command that is shown. -/
def shown (text : Octets) : Octets :=
  if text.isEmpty then "''" else whereNeeded text

/-- A text with backslashes where it needs them. -/
def withBackslashes (text : Octets) : Octets :=
  if text.isEmpty then "''"
  else if needsEscapes text then withEscapes text
  else
    let inner := text.toList.flatMap fun c =>
      if c == ',' || special.contains c then ['\\', c] else [c]
    String.ofList (if startsSpecially text.toList then '\\' :: inner else inner)

/-- A key of a member, in quotes if it needs them. -/
def key (text : Octets) : Octets :=
  if needsEscapes text || isSpecial text then double text else text

end Quoting

namespace Rendering

/-- A part of a word as a script has it. -/
def part : Part -> Octets
  | .text text true => Quoting.shown text
  | .text text false => text
  | .parameter name .plain _ _ => s!"${name}"
  | .parameter name .length _ _ => String.ofList ("$\x7b#".toList ++ name.toList ++ ['\x7d'])
  | .parameter name .. | .member name .. | .names name .. | .keys name .. =>
      String.ofList ("$\x7b".toList ++ name.toList ++ ['\x7d'])
  | .output .. => "$(...)"
  | .value expression _ => "$((" ++ (plainText? expression).getD "" ++ "))"
  | .target name _ appends => name ++ (if appends then "+=" else "=")
  | .list _ => "(...)"

/-- A word as a script has it. -/
def word (word : Word) : Octets :=
  String.join ((word.filter fun part =>
    match part with
    | .text "" true => false
    | _ => true).map part)

end Rendering
end Shell
end CameraFleet
