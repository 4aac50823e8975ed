import CameraFleet.Programs.Amount
import CameraFleet.Programs.Fields
import CameraFleet.Text.Regex.Reader

/-!
# Numbers before lines

The lines of files get numbers. A file may consist of pages with a head, a body
and a foot, which are told apart by certain lines, and in each of which other
lines get numbers.
-/

namespace CameraFleet
namespace Programs

open Host

namespace Numbering

/-- Which lines get numbers. -/
inductive Choice
  /-- All. -/
  | all
  /-- Those that are not empty. -/
  | full
  /-- None. -/
  | none
  /-- Those in which there is a match. -/
  | matching (regex : Regex)

/-- Where a number stands in its field. -/
inductive Format
  /-- On the left. -/
  | left
  /-- On the right. -/
  | right
  /-- On the right, after zeros. -/
  | zeros
  deriving Repr, DecidableEq

/-- How lines are numbered. -/
structure Plan where
  /-- Which lines of heads get numbers. -/
  heads : Choice
  /-- Which lines of bodies get numbers. -/
  bodies : Choice
  /-- Which lines of feet get numbers. -/
  feet : Choice
  /-- What tells the parts of pages apart. -/
  divider : Octets
  /-- The first number. -/
  start : Int
  /-- How far numbers are apart. -/
  step : Int
  /-- Of so many empty lines one gets a number. -/
  joined : Nat
  /-- Whether numbers start again on a new page. -/
  startsAgain : Bool
  /-- What stands after a number. -/
  separator : Octets
  /-- How wide a number is. -/
  width : Nat
  /-- Where a number stands in its field. -/
  format : Format

/-- How far lines have been numbered. -/
structure Progress where
  /-- The next number. -/
  number : Int
  /-- Which lines get numbers. -/
  choice : Choice
  /-- How many empty lines have got no number. -/
  blanks : Nat := 0
  /-- What is printed, the last line first. -/
  printed : List Octets := []
  /-- Whether a number would have been too large. -/
  isOver : Bool := false

namespace Plan

/-- A number as it is printed. -/
def numberText (plan : Plan) (number : Int) : Octets :=
  let digits := toString number
  let fill (c : Char) : Octets := String.ofList (List.replicate (plan.width - digits.length) c)
  match plan.format with
  | .left => digits ++ fill ' '
  | .right => fill ' ' ++ digits
  | .zeros =>
      if number < 0 then "-" ++ fill '0' ++ toString number.natAbs else fill '0' ++ digits

/-- What tells the parts of pages apart stands so many times on a line, which is nothing else. -/
def partOf (plan : Plan) (line : Octets) : Option Nat :=
  if plan.divider.length < 2 then Option.none
  else if line == plan.divider then some 1
  else if line == plan.divider ++ plan.divider then some 2
  else if line == plan.divider ++ plan.divider ++ plan.divider then some 3
  else Option.none

/-- Print a line with a number. -/
def withNumber
    (plan : Plan)
    (progress : Progress)
    (line : Octets) : Progress :=
  if greatestInteger < progress.number || progress.isOver then { progress with isOver := true }
  else
    { progress with
      number := progress.number + plan.step
      printed :=
        (plan.numberText progress.number ++ plan.separator ++ line ++ "\n") :: progress.printed }

/-- Print a line without a number. -/
def withoutNumber
    (plan : Plan)
    (progress : Progress)
    (line : Octets) : Progress :=
  if progress.isOver then progress
  else
    let gap := String.ofList (List.replicate (plan.width + plan.separator.length) ' ')
    { progress with printed := (gap ++ line ++ "\n") :: progress.printed }

/-- Go on with a line. -/
def take
    (plan : Plan)
    (progress : Progress)
    (line : Octets) : Progress :=
  match plan.partOf line with
  | some count =>
      let choice := if count = 3 then plan.heads else if count = 2 then plan.bodies else plan.feet
      let number := if plan.startsAgain then plan.start else progress.number
      if progress.isOver then progress
      else { progress with choice, number, printed := "\n" :: progress.printed }
  | none =>
      match progress.choice with
      | .none => plan.withoutNumber progress line
      | .full =>
          if line.isEmpty then plan.withoutNumber progress line
          else plan.withNumber progress line
      | .all =>
          if plan.joined ≤ 1 then plan.withNumber progress line
          else if !line.isEmpty || progress.blanks + 1 = plan.joined then
            { plan.withNumber progress line with blanks := 0 }
          else { plan.withoutNumber progress line with blanks := progress.blanks + 1 }
      | .matching regex =>
          if (regex.search? { chars := line.toList.toArray } 0).isSome then
            plan.withNumber progress line
          else plan.withoutNumber progress line

end Plan

/-! ## Options -/

/-- The choice that an option gives; none if it gives none. -/
def choiceOf (text : Octets) : Except Octets (Option Choice) :=
  match text.toList with
  | 'a' :: _ => .ok (some .all)
  | 't' :: _ => .ok (some .full)
  | 'n' :: _ => .ok (some .none)
  | 'p' :: pattern =>
      match Regex.read {} (String.ofList pattern) with
      | .ok regex => .ok (some (.matching regex))
      | .error mistake => .error mistake.text
  | _ => .ok none

/-- The format that an option gives. -/
def formatOf (text : Octets) : Option Format :=
  match text with
  | "ln" => some .left
  | "rn" => some .right
  | "rz" => some .zeros
  | _ => none

/-- Take an option: what is complained about, or how lines are numbered. -/
def takeOption (plan : Plan) (option : Given) : Except Octets (Plan × List Octets) := do
  let text := option.argument.getD ""
  let number (what : Octets) (least most : Int) : Except Octets Int :=
    (bounded text least most).mapError fun reason => s!"{what}: {reason}"
  let choose (part : Octets) (set : Choice -> Plan) : Except Octets (Plan × List Octets) := do
    match ← choiceOf text with
    | some choice => pure (set choice, [])
    | none => pure (plan, [s!"invalid {part} numbering style: {Quoted.plain text}"])
  match option.letter with
  | 'h' => choose "header" fun heads => { plan with heads }
  | 'b' => choose "body" fun bodies => { plan with bodies }
  | 'f' => choose "footer" fun feet => { plan with feet }
  | 'v' =>
      let start ← number "invalid starting line number" (-greatestInteger - 1) greatestInteger
      pure ({ plan with start }, [])
  | 'i' =>
      let step ← number "invalid line number increment" (-greatestInteger - 1) greatestInteger
      pure ({ plan with step }, [])
  | 'l' =>
      let joined ← number "invalid line number of blank lines" 1 greatestInteger
      pure ({ plan with joined := joined.toNat }, [])
  | 'w' =>
      let width ← number "invalid line number field width" 1 2147483647
      pure ({ plan with width := width.toNat }, [])
  | 'n' =>
      match formatOf text with
      | some format => pure ({ plan with format }, [])
      | none => pure (plan, [s!"invalid line numbering format: {Quoted.plain text}"])
  | 's' => pure ({ plan with separator := text }, [])
  | 'd' =>
      let divider := if text.length = 1 then text ++ ":" else text
      pure ({ plan with divider }, [])
  | 'p' => pure ({ plan with startsAgain := false }, [])
  | _ => pure (plan, [])

/-- Take some options one after another. -/
def takeOptions : Plan -> List Given -> Except Octets (Plan × List Octets)
  | plan, [] => .ok (plan, [])
  | plan, option :: rest => do
      let (plan, complaints) ← takeOption plan option
      let (plan, others) ← takeOptions plan rest
      pure (plan, complaints ++ others)

/-- How lines are numbered if there are no options. -/
def usual : Plan where
  heads := .none
  bodies := .full
  feet := .none
  divider := "\\:"
  start := 1
  step := 1
  joined := 1
  startsAgain := true
  separator := "\t"
  width := 6
  format := .right

/-- The options. -/
def options : OptionTable where
  letters := ("hbfvilwnsd".toList.map fun letter => (letter, Taking.something)) ++ [('p', .nothing)]
  words :=
    [("header-numbering", 'h', .something), ("body-numbering", 'b', .something),
      ("footer-numbering", 'f', .something), ("starting-line-number", 'v', .something),
      ("line-increment", 'i', .something), ("no-renumber", 'p', .nothing),
      ("join-blank-lines", 'l', .something), ("number-separator", 's', .something),
      ("number-width", 'w', .something), ("number-format", 'n', .something),
      ("section-delimiter", 'd', .something)]

/-- Print the lines of files with numbers. -/
def program : Program :=
  withOptions options 1 fun launch given operands => do
    match takeOptions usual given with
    | .error reason => fail launch.name reason 1
    | .ok (plan, complaints) =>
        if !complaints.isEmpty then do
          for complaint in complaints do
            warn launch.name complaint
          Act.complain (hint launch.name)
          pure 1
        else do
          let (texts, status) ← gather (warnOfFile launch.name) (orInput operands)
          let start : Progress := { number := plan.start, choice := plan.bodies }
          let lines := texts.flatMap fun text => (linesOf text).1
          let progress := lines.foldl plan.take start
          let status ← printing launch.name (String.join progress.printed.reverse) status
          if progress.isOver then fail launch.name "line number overflow" 1 else pure status

end Numbering

/-- Print the lines of files with numbers. -/
def nl : Program :=
  Numbering.program

/-! ## Folding -/

namespace Folding

/-- How lines are folded. -/
structure Plan where
  /-- How wide a line is at most. -/
  width : Nat
  /-- Whether lines are folded after blanks, where possible. -/
  atBlanks : Bool
  /-- Whether bytes are counted, and not columns. -/
  countsBytes : Bool
  deriving Repr, DecidableEq

/-- The column after a character. -/
def Plan.next (plan : Plan) (column : Nat) (c : Char) : Nat :=
  if plan.countsBytes then column + 1
  else if c == '\x08' then column - 1
  else if c == '\r' then 0
  else if c == '\t' then column + 8 - column % 8
  else column + 1

/-- The column after some characters. -/
def Plan.after (plan : Plan) (chars : List Char) : Nat :=
  chars.foldl plan.next 0

/-- Where folding is: the characters of the present line backwards, and what is finished. -/
structure Place where
  /-- The characters of the present line, the last one first. -/
  line : List Char := []
  /-- The column after them. -/
  column : Nat := 0
  /-- What is finished, the last part first. -/
  printed : List Octets := []

/-- Go on with a character; the number bounds how often a line is folded for it. -/
def Plan.put (plan : Plan) : Nat -> Place -> Char -> Place
  | 0, place, c => { place with line := c :: place.line }
  | fuel + 1, place, c =>
      let column := plan.next place.column c
      if column ≤ plan.width then { place with line := c :: place.line, column }
      else
        let isBlank (c : Char) : Bool := c == ' ' || c == '\t'
        let after := place.line.takeWhile fun c => !isBlank c
        let before := place.line.drop after.length
        if plan.atBlanks && !before.isEmpty then
          let text := String.ofList before.reverse ++ "\n"
          plan.put fuel
            { line := after, column := plan.after after.reverse
              printed := text :: place.printed } c
        else if place.line.isEmpty then { place with line := [c], column }
        else
          let text := String.ofList place.line.reverse ++ "\n"
          plan.put fuel { printed := text :: place.printed } c

/-- Go on with a character, which may end a line. -/
def Plan.step (plan : Plan) (place : Place) (c : Char) : Place :=
  if c == '\n' then
    { printed := (String.ofList place.line.reverse ++ "\n") :: place.printed }
  else plan.put (place.line.length + 3) place c

/-- A text with its lines folded. -/
def Plan.fold (plan : Plan) (text : Octets) : Octets :=
  let place := text.toList.foldl plan.step {}
  String.join (String.ofList place.line.reverse :: place.printed).reverse

/-- The arguments with digits after a hyphen spelled out. -/
def spelled : List Octets -> List Octets
  | [] => []
  | "--" :: rest => "--" :: rest
  | arg :: rest =>
      match arg.toList with
      | '-' :: c :: digits =>
          if c.isDigit then "-w" :: String.ofList (c :: digits) :: spelled rest
          else arg :: spelled rest
      | _ => arg :: spelled rest

/-- Print files with their lines folded. -/
def program : Program := fun launch =>
  withOptions
    { letters := [('b', .nothing), ('s', .nothing), ('w', .something)]
      words :=
        [("bytes", 'b', .nothing), ("spaces", 's', .nothing), ("width", 'w', .something)] } 1
    (fun launch given operands => do
      match boundedNatural ((argumentOf? given 'w').getD "80") 1 9223372036854775807 with
      | .error reason => fail launch.name s!"invalid number of columns: {reason}" 1
      | .ok width => do
          let plan : Plan :=
            { width, atBlanks := isGiven given 's', countsBytes := isGiven given 'b' }
          let (texts, status) ← gather (warnOfFile launch.name) (orInput operands)
          printing launch.name (String.join (texts.map plan.fold)) status)
    { launch with args := spelled launch.args }

end Folding

/-- Print files with their lines folded. -/
def fold : Program :=
  Folding.program

end Programs
end CameraFleet
