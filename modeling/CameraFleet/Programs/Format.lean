import CameraFleet.Programs.Directive
import CameraFleet.Programs.Escape
import CameraFleet.Text.Quoted

/-!
# Printing by a format

A format is gone through from its start to its end: characters stand for
themselves, escapes for other characters, and directives for operands. As long
as there are operands left it is gone through again.
-/

namespace CameraFleet
namespace Programs

/-- How a format is understood. -/
structure FormatStyle where
  /-- The escapes of the format. -/
  format : Dialect
  /-- The escapes of an operand. -/
  operand : Dialect
  /-- The binary digits of a number with a fraction. -/
  bits : Nat
  /-- What is wrong with an operand that is no number. -/
  noNumber : Octets -> Octets
  /-- What is wrong with an operand that goes on after a number. -/
  partly : Octets -> Octets
  /-- What is wrong with an operand that is too large a number. -/
  tooLarge : Octets -> Octets
  /-- Whether nothing may follow the character of a quoted operand. -/
  isStrict : Bool
  /-- What is wrong with a directive, given from its percent sign on, if anything is. -/
  directiveFault? : DirectiveText -> Octets -> Option Octets
  /-- How an operand is quoted. -/
  quote : Octets -> Octets := Quoted.wordIfNeeded

/-- How printing ends before the format does. -/
inductive FormatEnd
  /-- An escape asks for the end. -/
  | stop
  /-- Something is wrong with the format. -/
  | wrong (reason : Octets)
  deriving Repr, DecidableEq

/-- The state of printing. -/
structure Printing where
  /-- The operands that are left. -/
  operands : List Octets
  /-- What is printed. -/
  output : Octets := ""
  /-- What there is to complain about, last one first, and whether it is a mere warning. -/
  complaints : List (Octets × Bool) := []
  /-- Whether an operand has been asked for. -/
  asked : Bool := false
  /-- How printing has ended, if it has. -/
  ended : Option FormatEnd := none

namespace Printing

/-- Print a text. -/
def print (printing : Printing) (text : Octets) : Printing :=
  { printing with output := printing.output ++ text }

/-- Complain about something. -/
def complain (printing : Printing) (text : Octets) : Printing :=
  { printing with complaints := (text, false) :: printing.complaints }

/-- Take the next operand, if there is one. -/
def take (printing : Printing) : Option Octets × Printing :=
  match printing.operands with
  | [] => (none, { printing with asked := true })
  | first :: operands => (some first, { printing with operands, asked := true })

/-- The greatest number with a sign. -/
def greatest : Int := 9223372036854775807

/-- The least number with a sign. -/
def least : Int := -9223372036854775808

/-- A number as it is kept in 64 bits, and whether it is too large for them. -/
def keep (signed : Bool) (value : Int) : Int × Bool :=
  if signed then
    let kept := max least (min greatest value)
    (kept, kept != value)
  else if value.natAbs < Directive.modulus then (value, false)
  else (-1, true)

/-- The number of the character after a quotation mark, if an operand starts with one. -/
def quotedValue? (style : FormatStyle) (text : Octets) : Option (Nat × List Char) :=
  match text.toList with
  | mark :: rest =>
      if mark == '\'' || mark == '"' then
        match rest with
        | c :: after => some (c.toNat, after)
        | [] => if style.isStrict then none else some (0, [])
      else none
  | [] => none

/-- Warn of what follows the character of a quoted operand. -/
def warnOfRest
    (style : FormatStyle)
    (printing : Printing)
    (rest : List Char) : Printing :=
  if style.isStrict && !rest.isEmpty then
    let what := "character(s) following character constant have been ignored"
    let text := s!"warning: {String.ofList rest}: {what}"
    { printing with complaints := (text, true) :: printing.complaints }
  else printing

/-- The whole number that an operand stands for. -/
def integerOf
    (style : FormatStyle)
    (signed : Bool)
    (printing : Printing)
    (operand : Option Octets) : Int × Printing :=
  match operand with
  | none => (0, printing)
  | some text =>
      match quotedValue? style text with
      | some (value, rest) => (value, warnOfRest style printing rest)
      | none =>
          match Numeral.integer? text.toList with
          | none => (0, if text.isEmpty then printing else printing.complain (style.noNumber text))
          | some (value, rest) =>
              let (kept, exceeds) := keep signed value
              if exceeds then (kept, printing.complain (style.tooLarge text))
              else if rest.isEmpty then (kept, printing)
              else (kept, printing.complain (style.partly text))

/-- The number that an operand stands for. -/
def realOf
    (style : FormatStyle)
    (printing : Printing)
    (operand : Option Octets) : Quantity × Printing :=
  match operand with
  | none => (.ofNat 0, printing)
  | some text =>
      match quotedValue? style text with
      | some (value, rest) => (.ofNat value, warnOfRest style printing rest)
      | none =>
          match Quantity.read? text.toList with
          | none =>
              (.ofNat 0, if text.isEmpty then printing else printing.complain (style.noNumber text))
          | some (value, rest) =>
              if rest.isEmpty then (value, printing)
              else (value, printing.complain (style.partly text))

/-- A width or a precision, which an operand gives if none is written. -/
def measure
    (style : FormatStyle)
    (printing : Printing)
    (written : Option Nat) : Int × Printing :=
  match written with
  | some number => (number, printing)
  | none =>
      let (operand, printing) := printing.take
      integerOf style true printing operand

/-- Print as a directive says. -/
def direct
    (style : FormatStyle)
    (printing : Printing)
    (directive : Directive) : Printing :=
  let (operand, printing) := printing.take
  let text := operand.getD ""
  match directive.conversion with
  | 's' => printing.print (directive.text text)
  | 'q' | 'Q' => printing.print (directive.text (style.quote text))
  | 'c' =>
      printing.print (directive.char (String.singleton (text.toList.headD '\x00')))
  | 'b' =>
      let (replaced, ending) := Escape.replaceAll style.operand text
      let printing := printing.print (directive.text replaced)
      match ending with
      | some .missing =>
          { printing with ended := some (.wrong "missing hexadecimal number in escape") }
      | some .stop => { printing with ended := some .stop }
      | _ => printing
  | 'd' | 'i' =>
      let (value, printing) := integerOf style true printing operand
      printing.print (directive.integer value)
  | 'o' | 'u' | 'x' | 'X' =>
      let (value, printing) := integerOf style false printing operand
      printing.print (directive.integer value)
  | _ =>
      let (value, printing) := realOf style printing operand
      printing.print (directive.real style.bits value)

/-- The flags of directives. -/
def flags (style : FormatStyle) : List Char :=
  if style.isStrict then ['#', '-', '+', ' ', '0', '\'', 'I'] else ['#', '-', '+', ' ', '0']

/-- Print as the directive says that is written in some characters. -/
def directWritten
    (style : FormatStyle)
    (printing : Printing)
    (written : DirectiveText) : Printing :=
  let (width, printing) := printing.measure style written.width
  let (precision, printing) :=
    match written.precision with
    | none => ((none : Option Nat), printing)
    | some precision =>
        let (value, printing) := printing.measure style precision
        (if value < 0 then none else some value.toNat, printing)
  let flags := if width < 0 then '-' :: written.flags else written.flags
  match written.rest with
  | [] => printing
  | conversion :: _ =>
      printing.direct style { flags, width := width.natAbs, precision, conversion }

/-- Go through the characters of a format; the number bounds the steps. -/
def through (style : FormatStyle) : Nat -> List Char -> Printing -> Printing
  | 0, _, printing => printing
  | _ + 1, [], printing => printing
  | fuel + 1, c :: rest, printing =>
      if printing.ended.isSome then printing
      else if c == '\\' then
        match Escape.read style.format rest with
        | (.text found, rest) => through style fuel rest (printing.print found)
        | (.stop, _) => { printing with ended := some .stop }
        | (.missing, _) =>
            { printing with ended := some (.wrong "missing hexadecimal number in escape") }
      else if c == '%' then
        if rest.head? == some '%' then through style fuel (rest.drop 1) (printing.print "%")
        else
          let written := DirectiveText.read (flags style) rest
          let conversion := written.rest.dropWhile ['l', 'L', 'h', 'j', 't', 'z'].contains
          let written :=
            if style.isStrict then { written with rest := conversion } else written
          let spent := rest.length - (written.rest.drop 1).length
          let shown := String.ofList ('%' :: rest.take spent)
          match style.directiveFault? written shown with
          | some reason => { printing with ended := some (.wrong reason) }
          | none =>
              through style fuel (written.rest.drop 1) (printing.directWritten style written)
      else through style fuel rest (printing.print (String.singleton c))

/-- Go through a format until no operands are left; the number bounds the rounds. -/
def rounds (style : FormatStyle) (format : Octets) : Nat -> Printing -> Printing
  | 0, printing => printing
  | fuel + 1, printing =>
      let chars := format.toList
      let after := through style (chars.length + 1) chars { printing with asked := false }
      if after.ended.isSome || !after.asked || after.operands.isEmpty then after
      else rounds style format fuel after

/-- Print some operands by a format. -/
def run
    (style : FormatStyle)
    (format : Octets)
    (operands : List Octets) : Printing :=
  rounds style format (operands.length + 1) { operands }

end Printing
end Programs
end CameraFleet
