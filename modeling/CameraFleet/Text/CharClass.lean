/-!
# Classes of characters

White space is what trimming removes: the ASCII blanks with the vertical tab and
the form feed, the Unicode space separators, the two line separators and the byte
order mark.

The classes that patterns and sets of characters know by name hold characters of
one byte below 128 only.
-/

namespace CameraFleet
namespace Text

/-- White space, as trimming sees it. -/
def isBlank (c : Char) : Bool :=
  let n := c.toNat
  (0x09 ≤ n && n ≤ 0x0D) || n == 0x20 || n == 0xA0 || n == 0x1680 ||
    (0x2000 ≤ n && n ≤ 0x200A) || n == 0x2028 || n == 0x2029 ||
    n == 0x202F || n == 0x205F || n == 0x3000 || n == 0xFEFF

/-- A character list without the white space at its end. -/
def dropTrailing (text : List Char) : List Char :=
  (text.reverse.dropWhile isBlank).reverse

/-- A string without the white space at its end. -/
def trimEnd (text : String) : String :=
  String.ofList (dropTrailing text.toList)

/-- A string without the white space at either end. -/
def trim (text : String) : String :=
  String.ofList (dropTrailing (text.toList.dropWhile isBlank))

end Text

namespace CharClass

/-- The classes by name. -/
def table : List (String × (Char -> Bool)) :=
  [("alnum", Char.isAlphanum), ("alpha", Char.isAlpha), ("blank", fun c => c == ' ' || c == '\t'),
    ("cntrl", fun c => c < ' ' || c == '\x7f'), ("digit", Char.isDigit),
    ("graph", fun c => '!' ≤ c && c ≤ '~'), ("lower", Char.isLower),
    ("print", fun c => ' ' ≤ c && c ≤ '~'),
    ("punct", fun c => '!' ≤ c && c ≤ '~' && !c.isAlphanum),
    ("space", fun c => c == ' ' || ('\t' ≤ c && c ≤ '\r')), ("upper", Char.isUpper),
    ("xdigit", fun c => c.isDigit || ('a' ≤ c && c ≤ 'f') || ('A' ≤ c && c ≤ 'F'))]

/-- Whether a name is the name of a class. -/
def isName (name : String) : Bool :=
  (table.lookup name).isSome

/-- Whether a character is in the class of a name. -/
def holds (name : String) (c : Char) : Bool :=
  match table.lookup name with
  | some accepts => accepts c
  | none => false

end CharClass
end CameraFleet
