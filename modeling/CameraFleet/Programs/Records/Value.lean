import CameraFleet.Programs.Directive
import CameraFleet.Programs.Records.Table
import CameraFleet.Programs.Records.Token

/-!
# Values of scripts

A value is a number or a text. A text that comes from the input is also a number
if it looks like one, and a variable that has no value yet is zero as well as the
empty text.
-/

namespace CameraFleet
namespace Programs
namespace Records

/-- A value. -/
inductive Value
  /-- There is none yet. -/
  | unset
  /-- A number. -/
  | number (value : Floating)
  /-- A text. -/
  | text (text : Octets)
  /-- A text from the input. -/
  | input (text : Octets)
  deriving Repr, DecidableEq

namespace Value

/-! ## Numbers -/

/-- The number at the start of a text, or zero. -/
def numberOf (text : Octets) : Floating :=
  match Quantity.read? text.toList with
  | some (quantity, _) => Floating.ofQuantity quantity
  | none => .zero

/-- Whether a character is blank. -/
def isBlank (c : Char) : Bool :=
  " \t\n\x0b\x0c\r".toList.contains c

/-- The number that a text from the input looks like. -/
def lookedLike? (text : Octets) : Option Floating :=
  let chars := ((text.toList.dropWhile isBlank).reverse.dropWhile isBlank).reverse
  let startsLikeNumber := chars.head?.any fun c => c.isDigit || ['+', '-', '.'].contains c
  let endsLikeNumber := chars.getLast?.any fun c => c.isDigit || c == '.'
  if startsLikeNumber && endsLikeNumber then
    match Quantity.read? chars with
    | some (quantity, []) => some (Floating.ofQuantity quantity)
    | _ => none
  else none

/-- The number of a value. -/
def toNumber : Value -> Floating
  | .unset => .zero
  | .number value => value
  | .text word | .input word => numberOf word

/-- A truth value. -/
def ofBool (value : Bool) : Value :=
  .number (if value then .one else .zero)

/-- A natural number. -/
def ofNat (n : Nat) : Value :=
  .number (Floating.ofNat n)

/-- The whole part of a number, where what is too large counts as a bound. -/
def wholeOf (number : Floating) : Int :=
  let bound : Int := 9223372036854775807
  match number with
  | .infinite negative => if negative then -bound else bound
  | .undefined _ => -bound
  | _ => max (-bound) (min bound (number.whole?.getD 0))

/-! ## Printing by a format -/

/-- What comes of a format. -/
structure Formatted where
  /-- The text. -/
  text : Octets
  /-- What is wrong with the rest of the format, if anything is. -/
  fault : Option Octets := none
  deriving Repr, DecidableEq

/-- The whole number that is printed for a number. -/
def printedWhole (number : Floating) : Int :=
  let most : Int := 18446744073709551615
  let least : Int := -9223372036854775807
  match number with
  | .infinite negative => if negative then least else most
  | .undefined _ => least
  | _ => max least (min most (number.whole?.getD 0))

/-- The text of a number; the format is for those with fractions. -/
def numberText
    (format : Floating -> Octets)
    (number : Floating) : Octets :=
  match number.toInt? with
  | some n =>
      if -9223372036854775808 ≤ n && n ≤ 18446744073709551616 then
        toString (min n 18446744073709551615)
      else format number
  | none => format number

/-- A number in the form of a directive. -/
def directed
    (directive : Directive)
    (number : Floating) : Octets :=
  match directive.conversion with
  | 'd' | 'i' | 'o' | 'x' | 'X' | 'u' => directive.integer (printedWhole number)
  | _ => directive.real Floating.precision number.quantity

/-- A number in a format with one directive for it. -/
def simpleFormat (format : Octets) (number : Floating) : Octets :=
  let chars := format.toList
  let before := chars.takeWhile (· != '%')
  let read := DirectiveText.read ['-', '+', ' ', '#', '0'] ((chars.dropWhile (· != '%')).drop 1)
  match read.rest with
  | [] => format
  | letter :: after =>
      let directive : Directive :=
        { flags := read.flags, width := read.width.getD 0, precision := read.precision.join
          conversion := letter }
      String.ofList before ++ directed directive number ++ String.ofList after

/-- The text of a value; the format is for numbers with fractions. -/
def toText (format : Octets) : Value -> Octets
  | .unset => ""
  | .number value => numberText (simpleFormat format) value
  | .text word | .input word => word

/-- The character of a value. -/
def toChar (value : Value) : Octets :=
  let ofNumber (n : Floating) : Octets :=
    String.singleton (Char.ofNat (((wholeOf n).emod 256).toNat))
  let ofText (word : Octets) : Octets := String.singleton (word.toList.headD '\x00')
  match value with
  | .unset => "\x00"
  | .number n => ofNumber n
  | .text word => ofText word
  | .input word =>
      match lookedLike? word with
      | some n => ofNumber n
      | none => ofText word

/-- A number that stands in place of an asterisk: the flags for it, and the number. -/
def starred (number : Int) : List Char × Nat :=
  if number < 0 then (['-'], number.natAbs) else ([], number.natAbs)

/-- Values in a format; the first number bounds the steps, the second one counts the directives. -/
def formattedOn
    (format : Octets)
    (convert : Octets) : Nat -> Nat -> List Char -> List Value -> List Char -> Formatted
  | 0, _, _, _, sofar => { text := String.ofList sofar.reverse }
  | fuel + 1, count, chars, values, sofar =>
      let put (text : Octets) (rest : List Char) (values : List Value) (count : Nat) : Formatted :=
        formattedOn format convert fuel count rest values (text.toList.reverse ++ sofar)
      let ended (reason : Octets) : Formatted :=
        { text := String.ofList sofar.reverse, fault := some reason }
      let lack : Formatted := ended s!"not enough arguments passed to printf(\x22{format}\x22)"
      let improper : Formatted :=
        ended s!"improper conversion(number {count}) in printf(\x22{format}\x22)"
      match chars with
      | [] => { text := String.ofList sofar.reverse }
      | '%' :: '%' :: rest => put "%" rest values count
      | '%' :: rest =>
          let read := DirectiveText.read ['-', '+', ' ', '#', '0'] rest
          let needed := (if read.width.isNone then 1 else 0) +
            (if read.precision == some none then 1 else 0)
          if values.length < needed then lack
          else
            let whole (value : Option Value) : Int :=
              ((value.map fun value => wholeOf value.toNumber).getD 0)
            let (moreFlags, width) :=
              match read.width with
              | some width => ([], width)
              | none => starred (whole values.head?)
            let afterWidth := if read.width.isNone then values.drop 1 else values
            let precision :=
              match read.precision with
              | some none =>
                  let n := whole afterWidth.head?
                  if n < 0 then none else some n.natAbs
              | other => other.join
            let values := values.drop needed
            match read.rest.dropWhile fun c => c == 'l' || c == 'h' || c == 'q' with
            | [] => improper
            | letter :: after =>
                let directive : Directive :=
                  { flags := read.flags ++ moreFlags, width, precision, conversion := letter }
                if !("sdioxXuceEfFgG".toList.contains letter) then
                  if values.isEmpty then lack else improper
                else
                  match values with
                  | [] => lack
                  | value :: others =>
                      let text :=
                        match letter with
                        | 's' => directive.text (value.toText convert)
                        | 'c' => directive.char (value.toChar)
                        | _ => directed directive value.toNumber
                      put text after others (count + 1)
      | c :: rest => formattedOn format convert fuel count rest values (c :: sofar)

/-- Values in a format. -/
def formatted
    (convert format : Octets)
    (values : List Value) : Formatted :=
  formattedOn format convert (format.length + 1) 1 format.toList values []

/-! ## Truth and comparison -/

/-- The number of a value that is or looks like one, or is unset. -/
def plainNumber? : Value -> Option Floating
  | .unset => some .zero
  | .number value => some value
  | .text _ => none
  | .input word => lookedLike? word

/-- Whether a value counts as true. -/
def isTrue (value : Value) : Bool :=
  match value with
  | .unset => false
  | .number n => !n.isZero
  | .text word => !word.isEmpty
  | .input word =>
      match lookedLike? word with
      | some n => !n.isZero
      | none => !word.isEmpty

/-- Whether an order is meant by a comparison. -/
def fits (how : Comparison) (order : Ordering) : Bool :=
  match how with
  | .less => order == .lt
  | .atMost => order != .gt
  | .same => order == .eq
  | .different => order != .eq
  | .atLeast => order != .lt
  | .greater => order == .gt

/-- Whether two values compare in a way. -/
def compares
    (format : Octets)
    (how : Comparison)
    (first second : Value) : Bool :=
  match first.plainNumber?, second.plainNumber? with
  | some a, some b =>
      match Floating.compare? a b with
      | some order => fits how order
      | none => how == .different
  | _, _ => fits how (compare (first.toText format) (second.toText format))

/-- The key of an element. -/
def toKey (format : Octets) : Value -> Key
  | .number value =>
      match value.toInt? with
      | some n =>
          if n.natAbs < 2147483648 then .number n
          else .text (numberText (simpleFormat format) value)
      | none => .text (numberText (simpleFormat format) value)
  | value => .text (value.toText format)

/-- The result of an operation. -/
def calculate
    (power : Floating -> Floating -> Floating)
    (operator : Operator)
    (first second : Floating) : Floating :=
  match operator with
  | .plus => first.add second
  | .minus => first.sub second
  | .times => first.mul second
  | .over => first.div second
  | .modulo => first.rem second
  | .power => power first second

end Value

/-! ## Splitting -/

/-- What separates fields. -/
inductive Separator
  /-- Blanks, which also may come first and last. -/
  | blanks
  /-- Nothing: every character is a field. -/
  | nothing
  /-- A regular expression. -/
  | pattern (regex : Regex)
  deriving Repr, DecidableEq

namespace Separator

/-- The separator that a text describes. -/
def ofText (text : Octets) : Except Octets Separator :=
  match text.toList with
  | [] => .ok .nothing
  | [' '] => .ok .blanks
  | [c] => .ok (.pattern (.char c))
  | _ => (Pattern.read text).map fun pattern => .pattern pattern.regex

/-- The words of some characters. -/
def words : Nat -> List Char -> List Octets
  | 0, _ => []
  | fuel + 1, chars =>
      let isSpace (c : Char) : Bool := c == ' ' || c == '\t' || c == '\n'
      match chars.dropWhile isSpace with
      | [] => []
      | rest =>
          String.ofList (rest.takeWhile (!isSpace ·)) :: words fuel (rest.dropWhile (!isSpace ·))

/-- The parts of a text from a place on that matches separate; the first number bounds them. -/
def partsOn
    (regex : Regex)
    (subject : Regex.Subject) : Nat -> Nat -> Nat -> List Octets
  | 0, start, _ => [subject.between start subject.chars.size]
  | fuel + 1, start, place =>
      match regex.search? subject place with
      | none => [subject.between start subject.chars.size]
      | some found =>
          if found.start < found.stop then
            subject.between start found.start :: partsOn regex subject fuel found.stop found.stop
          else if found.stop < subject.chars.size then
            partsOn regex subject fuel start (found.stop + 1)
          else [subject.between start subject.chars.size]

/-- The parts of a text. -/
def split (separator : Separator) (text : Octets) : List Octets :=
  let chars := text.toList
  if chars.isEmpty then []
  else
    match separator with
    | .blanks => words (chars.length + 1) chars
    | .nothing => chars.map String.singleton
    | .pattern regex =>
        let subject : Regex.Subject := { chars := chars.toArray }
        partsOn regex subject (chars.length + 1) 0 0

end Separator

/-! ## Replacing -/

/-- What takes the place of a match; the match itself takes the place of an ampersand. -/
def replacementOn (found : Octets) : List Char -> List Char
  | '\\' :: '\\' :: '&' :: rest => '\\' :: found.toList ++ replacementOn found rest
  | '\\' :: '\\' :: '\\' :: '&' :: rest => '\\' :: '&' :: replacementOn found rest
  | '\\' :: '&' :: rest => '&' :: replacementOn found rest
  | '&' :: rest => found.toList ++ replacementOn found rest
  | c :: rest => c :: replacementOn found rest
  | [] => []

/--
The text with matches replaced from a place on, and their number. The numbers
bound the matches; an empty match may not touch the one before it.
-/
def replacedOn
    (regex : Regex)
    (subject : Regex.Subject)
    (replacement : List Char) : Nat -> Nat -> Bool -> List Char -> Nat -> List Char × Nat
  | 0, place, _, sofar, count =>
      (sofar ++ (subject.between place subject.chars.size).toList, count)
  | fuel + 1, place, isFree, sofar, count =>
      let rest := (subject.between place subject.chars.size).toList
      match regex.search? subject place with
      | none => (sofar ++ rest, count)
      | some found =>
          let before := (subject.between place found.start).toList
          let text := replacementOn (subject.between found.start found.stop) replacement
          if found.start < found.stop then
            replacedOn regex subject replacement fuel found.stop false (sofar ++ before ++ text)
              (count + 1)
          else
            let isKept := !isFree && found.start = place
            let sofar := sofar ++ before ++ (if isKept then [] else text)
            let count := if isKept then count else count + 1
            match subject.chars[found.start]? with
            | none => (sofar, count)
            | some c =>
                replacedOn regex subject replacement fuel (found.start + 1) true (sofar ++ [c]) count

/-- A text with its first match replaced, or all, and their number. -/
def replaced
    (regex : Regex)
    (replacement text : Octets)
    (replacesAll : Bool) : Octets × Nat :=
  let subject : Regex.Subject := { chars := text.toList.toArray }
  let fuel := if replacesAll then 2 * subject.chars.size + 2 else 1
  let (chars, count) := replacedOn regex subject replacement.toList fuel 0 true [] 0
  (String.ofList chars, count)

end Records
end Programs
end CameraFleet
