import CameraFleet.Programs.Directive
import CameraFleet.Programs.Options

/-!
# Sequences of numbers

Numbers from a first to a last one are printed, each a step after the one
before. They are written with as many places as the first number and the step.
-/

namespace CameraFleet
namespace Programs

open Host

/-- A number as it is given. -/
structure GivenNumber where
  /-- The number. -/
  value : Quantity
  /-- The number of its places, if it has a known number of them. -/
  places : Option Nat
  /-- The number of its characters when it is written with these places. -/
  width : Nat
  deriving Repr, DecidableEq

namespace GivenNumber

/-- The number of places and the width of a decimal number. -/
def layout (chars : List Char) : Nat × Int :=
  let isE (c : Char) : Bool := c == 'e' || c == 'E'
  let mantissa := chars.takeWhile fun c => !isE c
  let whole := mantissa.takeWhile (· != '.')
  let hasPoint := mantissa.contains '.'
  let places := mantissa.length - whole.length - 1
  let width : Int := mantissa.length
  let width :=
    if !hasPoint then width
    else if places = 0 then width - 1
    else if (whole.getLast?.any Char.isDigit) then width
    else width + 1
  let (exponent, _) := Quantity.exponent? ['e', 'E'] (chars.dropWhile fun c => !isE c)
  if !chars.any isE then (places, width)
  else if exponent < 0 then
    let undo : Int := if hasPoint then if places = 0 then 1 else 0 else 1
    (places + exponent.natAbs, width + undo + exponent.natAbs)
  else (places - exponent.natAbs, width + exponent.natAbs)

/-- Read a number, or say what is wrong with it. -/
def read (text : Octets) : Except Octets GivenNumber :=
  match Quantity.ofText? text with
  | none => .error s!"invalid floating point argument: {Quoted.plain text}"
  | some (.undefined _) => .error s!"invalid 'not-a-number' argument: {Quoted.plain text}"
  | some value =>
      let chars := text.toList.dropWhile fun c => Numeral.isBlank c || c == '+'
      let isHexadecimal := chars.any fun c => c == 'x' || c == 'X'
      let isWhole := !chars.contains '.' && !chars.contains 'p'
      let isFinite :=
        match value with
        | .finite .. => true
        | _ => false
      if isHexadecimal || !isFinite then
        .ok { value, places := if isWhole then some 0 else none, width := 0 }
      else
        let (places, width) := layout chars
        .ok { value, places := some places, width := width.toNat }

end GivenNumber

/-- How numbers of a sequence are written: a directive with a text before and one after it. -/
structure NumberFormat where
  /-- What comes before a number. -/
  before : Octets := ""
  /-- How a number is written. -/
  directive : Directive
  /-- What comes after a number. -/
  after : Octets := ""
  deriving Repr, DecidableEq

namespace NumberFormat

/-- Write a number. -/
def write (format : NumberFormat) (value : Quantity) : Octets :=
  format.before ++ format.directive.real 64 value ++ format.after

/-- The format that the numbers themselves suggest. -/
def usual (equalWidth : Bool) (first step last : GivenNumber) : NumberFormat :=
  match first.places, step.places, last.places with
  | some a, some b, some c =>
      let places := max a b
      let firstWidth := first.width + (places - a) + (if a = 0 && places != 0 then 1 else 0)
      let lastWidth : Int :=
        last.width + ((places : Int) - c) +
          (if c = 0 && places != 0 then 1 else if c != 0 && places = 0 then -1 else 0)
      if equalWidth then
        { directive :=
            { flags := ['0'], width := max firstWidth lastWidth.toNat, precision := some places
              conversion := 'f' } }
      else { directive := { precision := some places, conversion := 'f' } }
  | _, _, _ => { directive := { conversion := 'g' } }

/-- The text before the first directive, and the characters from its percent sign on. -/
def beforeDirective : Nat -> List Char -> Octets -> Octets × List Char
  | 0, chars, before => (before, chars)
  | _ + 1, [], before => (before, [])
  | fuel + 1, '%' :: '%' :: rest, before => beforeDirective fuel rest (before.push '%')
  | _ + 1, '%' :: rest, before => (before, '%' :: rest)
  | fuel + 1, c :: rest, before => beforeDirective fuel rest (before.push c)

/-- Read a format, or say what is wrong with it. -/
def read (text : Octets) : Except Octets NumberFormat :=
  let shown := Quoted.plain text
  let (before, rest) := beforeDirective (text.length + 1) text.toList ""
  match rest with
  | [] => .error s!"format {shown} has no % directive"
  | _ :: rest =>
      let written := DirectiveText.read ['\'', '-', '+', '#', '0', ' '] rest
      match written.rest.dropWhile (· == 'L') with
      | [] => .error s!"format {shown} ends in %"
      | conversion :: rest =>
          if !(['a', 'e', 'f', 'g', 'A', 'E', 'F', 'G'].contains conversion) then
            .error s!"format {shown} has unknown %{conversion} directive"
          else
            let (after, more) := beforeDirective (rest.length + 1) rest ""
            if !more.isEmpty then .error s!"format {shown} has too many % directives"
            else
              .ok
                { before, after
                  directive :=
                    { flags := written.flags, width := written.width.getD 0
                      precision := written.precision.bind id, conversion } }

end NumberFormat

/-- A sequence that is to be printed. -/
structure Sequence where
  /-- The first number. -/
  first : Quantity
  /-- The step. -/
  step : Quantity
  /-- The last number. -/
  last : Quantity
  /-- How numbers are written. -/
  format : NumberFormat
  /-- What stands between numbers. -/
  separator : Octets

namespace Sequence

/-- Whether a number lies behind the last one. -/
def isBehind (sequence : Sequence) (value : Quantity) : Bool :=
  match sequence.last with
  | .infinite negative => negative != sequence.step.isNegative
  | last => if sequence.step.isNegative then value.isLess last else last.isLess value

/-- Whether a number behind the last one is printed, for it is written like the last one. -/
def printsExtra (sequence : Sequence) (before value : Quantity) : Bool :=
  let written := sequence.format.directive.real 64 value
  match Quantity.ofText? written with
  | some read =>
      !read.isLess sequence.last && !sequence.last.isLess read &&
        written != sequence.format.directive.real 64 before
  | none => false

/-- Print the numbers from one on, after what is still to be written. -/
def print (sequence : Sequence) (name : Octets) : Nat -> Nat -> Octets -> Act Nat
  | 0, _, pending => printing name pending 0
  | turns + 1, place, pending => do
      let value := sequence.first.plusTimes sequence.step place
      let next := sequence.first.plusTimes sequence.step (place + 1)
      let pending := pending ++ sequence.format.write value
      let goesOn := !sequence.isBehind value &&
        (!sequence.isBehind next || sequence.printsExtra value next)
      if !goesOn then printing name (pending ++ "\n") 0
      else
        let pending := pending ++ sequence.separator
        if pending.length < bufferSize then sequence.print name turns (place + 1) pending
        else if ← emit name (Octets.toBytes pending) then
          sequence.print name turns (place + 1) ""
        else pure 1

end Sequence

/-- Whether an argument is a negative number, so that it is no option. -/
def isNegativeNumber (arg : Octets) : Bool :=
  match arg.toList with
  | '-' :: c :: _ => c == '.' || c.isDigit
  | _ => false

/-- The arguments with two hyphens before the first negative number. -/
def guardNumbers : List Octets -> List Octets
  | [] => []
  | arg :: rest =>
      if isNegativeNumber arg then "--" :: arg :: rest
      else if arg == "--" then arg :: rest
      else arg :: guardNumbers rest

/-- The sequence that options and operands ask for, or what is wrong with them. -/
def sequenceOf
    (given : List Given)
    (operands : List Octets) : Except (Octets × Bool) Sequence := do
  let number (text : Octets) : Except (Octets × Bool) GivenNumber :=
    (GivenNumber.read text).mapError fun reason => (reason, true)
  let one : GivenNumber := { value := .ofNat 1, places := some 0, width := 1 }
  let format? ←
    match argumentOf? given 'f' with
    | some text => ((NumberFormat.read text).mapError fun reason => (reason, false)).map some
    | none => pure none
  if format?.isSome && isGiven given 'w' then
    .error ("format string may not be specified when printing equal width strings", true)
  let (first, step, last) ←
    match operands with
    | [last] => do pure (one, one, ← number last)
    | [first, last] => do pure (← number first, one, ← number last)
    | [first, step, last] => do pure (← number first, ← number step, ← number last)
    | [] => .error ("missing operand", true)
    | _ :: _ :: _ :: extra :: _ => .error (s!"extra operand {Quoted.plain extra}", true)
  if step.value.quotient.1 = 0 then
    .error ("invalid Zero increment value: " ++ Quoted.plain (operands.getD 1 ""), true)
  else
    pure
      { first := first.value, step := step.value, last := last.value
        format := format?.getD (NumberFormat.usual (isGiven given 'w') first step last)
        separator := (argumentOf? given 's').getD "\n" }

/-- Print a sequence of numbers. -/
def seq : Program := fun launch =>
  withOptions
    { letters := [('f', .something), ('s', .something), ('w', .nothing)]
      words :=
        [("format", 'f', .something), ("separator", 's', .something),
          ("equal-width", 'w', .nothing)]
      permutes := false } 1 (fun launch given operands => do
    match sequenceOf given operands with
    | .error (reason, true) => misuse launch.name reason 1
    | .error (reason, false) => fail launch.name reason 1
    | .ok sequence =>
        if sequence.isBehind sequence.first then pure 0
        else sequence.print launch.name manyTurns 0 "") { launch with args := guardNumbers launch.args }

end Programs
end CameraFleet
