import CameraFleet.Programs.Fields

/-!
# Two sorted files

The lines of two sorted files are compared, or joined where they have a field in
common. A line that comes too early is complained about, at the latest when it
matters because some line has no partner.
-/

namespace CameraFleet
namespace Programs

open Host

/--
Read inputs; the first that cannot be opened or read is complained about, in the
latter case with some words.
-/
def readInputs
    (name : Octets)
    (blame : Octets -> Octets) : List Octets -> Act (Option (List Octets))
  | [] => pure (some [])
  | operand :: rest => do
      match ← openInput operand with
      | .error fault => do
          warnOfFile name operand fault
          pure none
      | .ok descriptor => do
          let found ← readAll descriptor
          closeInput descriptor
          match found with
          | .error fault => do
              warn name s!"{blame operand}: {fault.text}"
              pure none
          | .ok bytes => do
              let others ← readInputs name blame rest
              pure (others.map (Octets.ofBytes bytes :: ·))

/-- Whether it is checked that lines are in order. -/
inductive OrderCheck
  /-- As soon as a line has no partner. -/
  | whenUnpaired
  /-- Always; the first line out of order ends everything. -/
  | always
  /-- Never. -/
  | never
  deriving Repr, DecidableEq

/-- The check that options ask for. -/
def orderCheckOf (given : List Given) : OrderCheck :=
  match lastOf? given ['K', 'N'] with
  | some 'K' => .always
  | some _ => .never
  | none => .whenUnpaired

/-- The words of the options about the order of lines. -/
def orderWords : List (Octets × Char × Taking) :=
  [("check-order", 'K', .nothing), ("nocheck-order", 'N', .nothing)]

/-- One of two sorted files: its lines from the present one on, and what has been found out. -/
structure Side (α : Type) where
  /-- The lines from the present one on. -/
  lines : List α
  /-- The line before the present one. -/
  previous : Option α := none
  /-- The number of the present line. -/
  number : Nat := 1
  /-- Whether a line has been complained about. -/
  isWarned : Bool := false

/-- Go through with two operands, or say what is wrong with them. -/
def withPair
    (launch : Launch)
    (operands : List Octets)
    (body : Octets -> Octets -> Act Nat) : Act Nat :=
  match operands with
  | [] => misuse launch.name "missing operand" 1
  | [only] => misuse launch.name s!"missing operand after {Quoted.plain only}" 1
  | [first, second] => body first second
  | _ :: _ :: extra :: _ => misuse launch.name s!"extra operand {Quoted.plain extra}" 1

/-- Print what has been found, complain about lines out of order, and end. -/
def endPairing
    (name output : Octets)
    (warnings : List Octets)
    (isHalted : Bool) : Act Nat := do
  let status ← printing name output 0
  for warning in warnings do
    warn name warning
  if isHalted then pure 1
  else if warnings.isEmpty then pure status
  else fail name "input is not in sorted order" 1

namespace Comparison

/-! ## Comparing -/

/-- How two files are compared. -/
structure Plan where
  /-- Whether lines of the first file only are shown. -/
  showsFirst : Bool
  /-- Whether lines of the second file only are shown. -/
  showsSecond : Bool
  /-- Whether lines of both files are shown. -/
  showsBoth : Bool
  /-- What stands between columns. -/
  separator : Octets
  /-- What ends a line. -/
  lineEnd : Octets
  /-- Whether it is checked that lines are in order. -/
  check : OrderCheck
  deriving Repr, DecidableEq

/-- How far two files have been compared. -/
structure Progress where
  /-- The first file. -/
  first : Side Octets
  /-- The second file. -/
  second : Side Octets
  /-- What is printed, the last line first. -/
  printed : List Octets := []
  /-- How many lines are in the first file only, in the second one only, and in both. -/
  totals : Nat × Nat × Nat := (0, 0, 0)
  /-- The complaints. -/
  warnings : List Octets := []
  /-- Whether a line has had no partner. -/
  hasUnpaired : Bool := false
  /-- Whether a complaint has ended everything. -/
  isHalted : Bool := false

/-- Go to the next line of a file; the result says whether a line is out of order. -/
def advance
    (plan : Plan)
    (progress : Progress)
    (side : Side Octets) : Side Octets × Bool :=
  let checks := plan.check == .always || (plan.check == .whenUnpaired && progress.hasUnpaired)
  match side.lines with
  | [] => (side, false)
  | line :: rest =>
      let isLate :=
        match rest, side.previous with
        | next :: _, _ => decide (next < line)
        | [], some previous => decide (line < previous)
        | [], none => false
      let isWrong := checks && !side.isWarned && isLate
      ({ lines := rest, previous := some line, number := side.number + 1
         isWarned := side.isWarned || isWrong }, isWrong)

/-- Note that a line of a file is out of order. -/
def noting
    (plan : Plan)
    (progress : Progress)
    (number : Nat)
    (isWrong : Bool) : Progress :=
  if !isWrong || progress.isHalted then progress
  else
    { progress with
      warnings := progress.warnings ++ [s!"file {number} is not in sorted order"]
      isHalted := plan.check == .always }

/-- A line in its column, if it is shown. -/
def shown
    (plan : Plan)
    (column : Nat)
    (line : Octets) : List Octets :=
  let before (isShown : Bool) : Octets := if isShown then plan.separator else ""
  let full := line ++ plan.lineEnd
  match column with
  | 0 => if plan.showsFirst then [full] else []
  | 1 => if plan.showsSecond then [before plan.showsFirst ++ full] else []
  | _ =>
      if plan.showsBoth then [before plan.showsFirst ++ before plan.showsSecond ++ full] else []

/-- Compare the present lines of two files. -/
def order (progress : Progress) : Option (Ordering × Octets) :=
  match progress.first.lines, progress.second.lines with
  | [], [] => none
  | line :: _, [] => some (.lt, line)
  | [], line :: _ => some (.gt, line)
  | a :: _, b :: _ => some (if a < b then (.lt, a) else if b < a then (.gt, b) else (.eq, b))

/-- Compare two files; the number bounds the lines. -/
def compareOn (plan : Plan) : Nat -> Progress -> Progress
  | 0, progress => progress
  | fuel + 1, progress =>
      match order progress with
      | none => progress
      | some (found, line) =>
          let (a, b, c) := progress.totals
          let (column, totals) : Nat × Nat × Nat × Nat :=
            match found with
            | .lt => (0, a + 1, b, c)
            | .gt => (1, a, b + 1, c)
            | .eq => (2, a, b, c + 1)
          let progress :=
            { progress with
              totals, printed := shown plan column line ++ progress.printed
              hasUnpaired := progress.hasUnpaired || column != 2 }
          let (first, isWrong) :=
            if column == 1 then (progress.first, false) else advance plan progress progress.first
          let progress := noting plan { progress with first } 1 isWrong
          if progress.isHalted then progress
          else
            let (second, isWrong) :=
              if column == 0 then (progress.second, false)
              else advance plan progress progress.second
            let progress := noting plan { progress with second } 2 isWrong
            if progress.isHalted then progress else compareOn plan fuel progress

/-- The options. -/
def options : OptionTable where
  letters := [('1', .nothing), ('2', .nothing), ('3', .nothing), ('z', .nothing)]
  words :=
    [("output-delimiter", 'O', .something), ("total", 'T', .nothing),
      ("zero-terminated", 'z', .nothing)] ++ orderWords

/-- Print the lines of two sorted files that they have in common, or not. -/
def program : Program :=
  withOptions options 1 fun launch given operands => do
    let separators := given.filterMap fun option =>
      if option.letter == 'O' then option.argument else none
    if 1 < separators.eraseDups.length then
      fail launch.name "multiple output delimiters specified" 1
    else
      withPair launch operands fun one other => do
        match ← readInputs launch.name Quoted.wordIfNeeded [one, other] with
        | some [a, b] => do
            let lineEnd := itemEnd given
            let separator := separators.headD "\t"
            let plan : Plan :=
              { showsFirst := !isGiven given '1', showsSecond := !isGiven given '2'
                showsBoth := !isGiven given '3', lineEnd, check := orderCheckOf given
                separator := if separator.isEmpty then "\x00" else separator }
            let first := linesEndedBy lineEnd [a]
            let second := linesEndedBy lineEnd [b]
            let progress :=
              compareOn plan (first.length + second.length + 1)
                { first := { lines := first }, second := { lines := second } }
            let (onlyFirst, onlySecond, both) := progress.totals
            let cells := [toString onlyFirst, toString onlySecond, toString both, "total"]
            let totals :=
              if isGiven given 'T' && !progress.isHalted then
                String.intercalate plan.separator cells ++ lineEnd
              else ""
            let output := String.join progress.printed.reverse ++ totals
            endPairing launch.name output progress.warnings progress.isHalted
        | _ => pure 1

end Comparison

/-- Print the lines of two sorted files that they have in common, or not. -/
def comm : Program :=
  Comparison.program

namespace Joining

/-! ## Joining -/

/-- A line with its fields. -/
structure Row where
  /-- The line. -/
  text : Octets
  /-- The fields. -/
  fields : List Octets
  deriving Repr, DecidableEq

/-- A part of what is printed for two lines. -/
inductive Piece
  /-- The field that they have in common. -/
  | common
  /-- A field of the line of the first file. -/
  | first (place : Nat)
  /-- A field of the line of the second file. -/
  | second (place : Nat)
  deriving Repr, DecidableEq

/-- How two files are joined. -/
structure Plan where
  /-- The place of the field in the first file. -/
  firstPlace : Nat
  /-- The place of the field in the second file. -/
  secondPlace : Nat
  /-- Whether pairs are printed. -/
  printsPairs : Bool
  /-- Whether lines of the first file without a partner are printed. -/
  printsFirst : Bool
  /-- Whether lines of the second file without a partner are printed. -/
  printsSecond : Bool
  /-- Whether the case of letters does not count. -/
  foldsCase : Bool
  /-- Whether the first lines are headers. -/
  hasHeader : Bool
  /-- What stands for a field that is empty or missing. -/
  filler : Octets
  /-- The character between fields; none if blanks are between them. -/
  separator : Option Char
  /-- What is printed of two lines; if there is nothing, all fields are. -/
  pieces : List Piece
  /-- Whether all lines are printed with as many fields as the first ones have. -/
  isUniform : Bool
  /-- What ends a line. -/
  lineEnd : Octets
  /-- Whether it is checked that lines are in order. -/
  check : OrderCheck
  deriving Repr, DecidableEq

/-- How far two files have been joined. -/
structure Progress where
  /-- The first file. -/
  first : Side Row
  /-- The second file. -/
  second : Side Row
  /-- What is printed, the last line first. -/
  printed : List Octets := []
  /-- The complaints. -/
  warnings : List Octets := []
  /-- Whether a line has had no partner. -/
  hasUnpaired : Bool := false
  /-- Whether a complaint has ended everything. -/
  isHalted : Bool := false

namespace Plan

/-- The fields that blanks separate, after the blanks; the number bounds them. -/
def blankFields : Nat -> List Char -> List Octets
  | 0, _ => []
  | fuel + 1, chars =>
      let isBlank (c : Char) : Bool := c == ' ' || c == '\t' || c == '\n'
      let field := chars.takeWhile fun c => !isBlank c
      match chars.dropWhile fun c => !isBlank c with
      | [] => [String.ofList field]
      | _ :: rest => String.ofList field :: blankFields fuel (rest.dropWhile isBlank)

/-- A line with its fields. -/
def row (plan : Plan) (text : Octets) : Row :=
  let fields :=
    match plan.separator with
    | some '\n' => if text.isEmpty then [] else [text]
    | some c => if text.isEmpty then [] else text.splitOn (String.singleton c)
    | none =>
        match text.toList.dropWhile fun c => c == ' ' || c == '\t' || c == '\n' with
        | [] => []
        | chars => blankFields (chars.length + 1) chars
  { text, fields }

/-- Compare the fields of two lines. -/
def order (plan : Plan) (a b : Option Octets) : Ordering :=
  let key (field : Option Octets) : List Char :=
    let chars := (field.getD "").toList
    if plan.foldsCase then chars.map Char.toUpper else chars
  SortKey.compareChars (key a) (key b)

/-- The field of a line of the first file. -/
def firstKey (plan : Plan) (row : Row) : Option Octets :=
  row.fields[plan.firstPlace]?

/-- The field of a line of the second file. -/
def secondKey (plan : Plan) (row : Row) : Option Octets :=
  row.fields[plan.secondPlace]?

/-- A field as it is printed. -/
def fieldText (plan : Plan) (field : Option Octets) : Octets :=
  match field with
  | some text => if text.isEmpty then plan.filler else text
  | none => plan.filler

/-- The fields of a line but for one; a number tells how many they are. -/
def otherFields
    (plan : Plan)
    (row : Row)
    (place count : Nat) : List Octets :=
  ((List.range count).filter (· != place)).map fun place => plan.fieldText row.fields[place]?

/-- What is printed for two lines, one of which may be missing. -/
def joined
    (plan : Plan)
    (counts : Nat × Nat)
    (a b : Option Row) : Octets :=
  let none : Row := { text := "", fields := [] }
  let first := a.getD none
  let second := b.getD none
  let common := plan.fieldText (if a.isSome then plan.firstKey first else plan.secondKey second)
  let cells :=
    if plan.pieces.isEmpty then
      let count (row : Row) (given : Nat) : Nat :=
        if plan.isUniform then given else row.fields.length
      common ::
        plan.otherFields first plan.firstPlace (count first counts.1) ++
        plan.otherFields second plan.secondPlace (count second counts.2)
    else
      plan.pieces.map fun piece =>
        match piece with
        | .common => common
        | .first place => plan.fieldText first.fields[place]?
        | .second place => plan.fieldText second.fields[place]?
  String.intercalate (String.singleton (plan.separator.getD ' ')) cells ++ plan.lineEnd

/-- Whether lines are checked at present. -/
def checks (plan : Plan) (progress : Progress) : Bool :=
  plan.check == .always || (plan.check == .whenUnpaired && progress.hasUnpaired)

/-- Go to the next line of a file; the result may be a complaint about that line. -/
def advance
    (plan : Plan)
    (progress : Progress)
    (title : Octets)
    (key : Row -> Option Octets)
    (side : Side Row) : Side Row × List Octets :=
  match side.lines with
  | [] => (side, [])
  | line :: rest =>
      let number := side.number + 1
      match rest with
      | [] => ({ side with lines := rest, previous := some line, number }, [])
      | next :: _ =>
          let isLate := plan.order (key line) (key next) == .gt
          let isWrong := plan.checks progress && !side.isWarned && isLate
          ({ lines := rest, previous := some line, number
             isWarned := side.isWarned || isWrong },
            if isWrong then [s!"{title}:{number}: is not sorted: {next.text}"] else [])

/-- Note complaints. -/
def noting
    (plan : Plan)
    (progress : Progress)
    (warnings : List Octets) : Progress :=
  { progress with
    warnings := progress.warnings ++ warnings
    isHalted := progress.isHalted || (plan.check == .always && !warnings.isEmpty) }

/-- Go to the next line of the first file. -/
def advanceFirst
    (plan : Plan)
    (titles : Octets × Octets)
    (progress : Progress) : Progress :=
  let (first, warnings) := plan.advance progress titles.1 plan.firstKey progress.first
  plan.noting { progress with first } warnings

/-- Go to the next line of the second file. -/
def advanceSecond
    (plan : Plan)
    (titles : Octets × Octets)
    (progress : Progress) : Progress :=
  let (second, warnings) := plan.advance progress titles.2 plan.secondKey progress.second
  plan.noting { progress with second } warnings

/-- Print two lines, one of which may be missing. -/
def printing
    (plan : Plan)
    (counts : Nat × Nat)
    (progress : Progress)
    (a b : Option Row) : Progress :=
  { progress with printed := plan.joined counts a b :: progress.printed }

/-- The lines of the first file that have the same field; the number bounds them. -/
def firstGroup
    (plan : Plan)
    (titles : Octets × Octets)
    (field : Option Octets) : Nat -> Progress -> List Row × Progress
  | 0, progress => ([], progress)
  | fuel + 1, progress =>
      match progress.first.lines with
      | row :: _ =>
          if progress.isHalted || plan.order (plan.firstKey row) field != .eq then ([], progress)
          else
            let (rows, progress) :=
              firstGroup plan titles field fuel (plan.advanceFirst titles progress)
            (row :: rows, progress)
      | [] => ([], progress)

/-- The lines of the second file that have the same field; the number bounds them. -/
def secondGroup
    (plan : Plan)
    (titles : Octets × Octets)
    (field : Option Octets) : Nat -> Progress -> List Row × Progress
  | 0, progress => ([], progress)
  | fuel + 1, progress =>
      match progress.second.lines with
      | row :: _ =>
          if progress.isHalted || plan.order (plan.secondKey row) field != .eq then ([], progress)
          else
            let (rows, progress) :=
              secondGroup plan titles field fuel (plan.advanceSecond titles progress)
            (row :: rows, progress)
      | [] => ([], progress)

/-- Join two files as long as both have lines; the number bounds the steps. -/
def joinOn
    (plan : Plan)
    (titles : Octets × Octets)
    (counts : Nat × Nat) : Nat -> Progress -> Progress
  | 0, progress => progress
  | fuel + 1, progress =>
      if progress.isHalted then progress
      else
        match progress.first.lines, progress.second.lines with
        | a :: others, b :: further =>
            match plan.order (plan.firstKey a) (plan.secondKey b) with
            | .lt =>
                let progress :=
                  if plan.printsFirst then plan.printing counts progress (some a) none else progress
                let progress := plan.advanceFirst titles progress
                joinOn plan titles counts fuel { progress with hasUnpaired := true }
            | .gt =>
                let progress :=
                  if plan.printsSecond then plan.printing counts progress none (some b)
                  else progress
                let progress := plan.advanceSecond titles progress
                joinOn plan titles counts fuel { progress with hasUnpaired := true }
            | .eq =>
                let (rows, progress) :=
                  plan.firstGroup titles (plan.secondKey b) (others.length + 1) progress
                let (mates, progress) :=
                  plan.secondGroup titles (plan.firstKey a) (further.length + 1) progress
                let pairs := rows.flatMap fun row => mates.map fun mate => (row, mate)
                let progress :=
                  if plan.printsPairs && !progress.isHalted then
                    pairs.foldl (fun progress (row, mate) =>
                      plan.printing counts progress (some row) (some mate)) progress
                  else progress
                joinOn plan titles counts fuel progress
        | _, _ => progress

/-- Go through the rest of the first file; the number bounds the lines. -/
def endFirst
    (plan : Plan)
    (titles : Octets × Octets)
    (counts : Nat × Nat) : Nat -> Progress -> Progress
  | 0, progress => progress
  | fuel + 1, progress =>
      match progress.first.lines with
      | [] => progress
      | row :: _ =>
          if progress.isHalted then progress
          else
            let progress :=
              if plan.printsFirst then plan.printing counts progress (some row) none else progress
            endFirst plan titles counts fuel (plan.advanceFirst titles progress)

/-- Go through the rest of the second file; the number bounds the lines. -/
def endSecond
    (plan : Plan)
    (titles : Octets × Octets)
    (counts : Nat × Nat) : Nat -> Progress -> Progress
  | 0, progress => progress
  | fuel + 1, progress =>
      match progress.second.lines with
      | [] => progress
      | row :: _ =>
          if progress.isHalted then progress
          else
            let progress :=
              if plan.printsSecond then plan.printing counts progress none (some row) else progress
            endSecond plan titles counts fuel (plan.advanceSecond titles progress)

/-- Join two files. -/
def join
    (plan : Plan)
    (titles : Octets × Octets)
    (first second : List Octets) : Progress :=
  let rows := first.map plan.row
  let mates := second.map plan.row
  let width (rows : List Row) : Nat := (rows.head?.map (·.fields.length)).getD 0
  let counts := (width rows, width mates)
  let steps := rows.length + mates.length + 1
  let start : Progress := { first := { lines := rows }, second := { lines := mates } }
  let start :=
    if plan.hasHeader && !(rows.isEmpty && mates.isEmpty) then
      let body (rows : List Row) : Side Row := { lines := rows.drop 1, number := 2 }
      plan.printing counts { start with first := body rows, second := body mates } rows.head?
        mates.head?
    else start
  let progress := plan.joinOn titles counts steps start
  plan.endSecond titles counts steps (plan.endFirst titles counts steps progress)

end Plan

/-! ## Options -/

/-- The place of a field, or what is wrong with its number. -/
def placeOf (text : Octets) : Except Octets Nat :=
  match natural? text with
  | some (n + 1) => .ok n
  | _ => .error s!"invalid field number: {Quoted.plain text}"

/-- A part of what is printed, or what is wrong with it. -/
def pieceOf (text : Octets) : Except Octets Piece :=
  match text.toList with
  | '0' :: rest =>
      if rest.isEmpty then .ok .common
      else .error s!"invalid field specifier: {Quoted.plain text}"
  | '1' :: '.' :: digits => (placeOf (String.ofList digits)).map .first
  | '2' :: '.' :: digits => (placeOf (String.ofList digits)).map .second
  | c :: _ =>
      if c == '1' || c == '2' then .error s!"invalid field specifier: {Quoted.plain text}"
      else .error s!"invalid file number in field spec: {Quoted.plain text}"
  | [] => .error s!"invalid file number in field spec: {Quoted.plain text}"

/-- The parts of what is printed, or what is wrong with them. -/
def piecesOf (text : Octets) : Except Octets (List Piece) :=
  let isBreak (c : Char) : Bool := c == ',' || c == ' ' || c == '\t'
  ((text.map fun c => if isBreak c then ',' else c).splitOn ",").mapM pieceOf

/-- The number of a file, or what is wrong with it. -/
def fileOf (text : Octets) : Except Octets Nat :=
  match natural? text with
  | some 1 => .ok 1
  | some 2 => .ok 2
  | _ => .error s!"invalid field number: {Quoted.plain text}"

/-- The character between fields that an option gives, or what is wrong with it. -/
def separatorOf (text : Octets) : Except Octets Char :=
  match text.toList with
  | [] => .ok '\n'
  | [c] => .ok c
  | ['\\', '0'] => .ok '\x00'
  | _ => .error s!"multi-character tab {Quoted.plain text}"

/-- The one value that some options agree on. -/
def agreed
    [BEq α]
    (values : List α)
    (complaint : α -> α -> Octets) : Except Octets (Option α) :=
  match values.eraseDups with
  | a :: b :: _ => .error (complaint a b)
  | found => .ok found.head?

/-- How files are joined, or what is wrong with the options. -/
def planOf (given : List Given) : Except Octets Plan := do
  let values (letters : List Char) : List Octets := given.filterMap fun option =>
    if letters.contains option.letter then option.argument else none
  let place (letters : List Char) : Except Octets Nat := do
    let places ← (values letters).mapM placeOf
    let found ← agreed places fun a b => s!"incompatible join fields {a}, {b}"
    pure (found.getD 0)
  let unpaired ← (values ['a', 'v']).mapM fileOf
  let firstPlace ← place ['1', 'j']
  let secondPlace ← place ['2', 'j']
  let filler ← agreed (values ['e']) fun _ _ => "conflicting empty-field replacement strings"
  let separators ← (values ['t']).mapM separatorOf
  let separator ← agreed separators fun _ _ => "incompatible tabs"
  let lists := (values ['o']).filter (· != "auto")
  let pieces ← lists.mapM piecesOf
  pure
    { firstPlace, secondPlace, printsPairs := !isGiven given 'v'
      printsFirst := unpaired.contains 1, printsSecond := unpaired.contains 2
      foldsCase := isGiven given 'i', hasHeader := isGiven given 'H', filler := filler.getD ""
      separator, pieces := pieces.flatten, isUniform := (values ['o']).contains "auto"
      lineEnd := itemEnd given, check := orderCheckOf given }

/-- The options. -/
def options : OptionTable where
  letters :=
    ("ae12jotv".toList.map fun letter => (letter, Taking.something)) ++
      [('i', .nothing), ('z', .nothing)]
  words :=
    [("ignore-case", 'i', .nothing), ("zero-terminated", 'z', .nothing),
      ("header", 'H', .nothing)] ++ orderWords

/-- Join the lines of two sorted files that have a field in common. -/
def program : Program :=
  withOptions options 1 fun launch given operands => do
    match planOf given with
    | .error reason => fail launch.name reason 1
    | .ok plan =>
        withPair launch operands fun one other => do
          if one == "-" && other == "-" then
            fail launch.name "both files cannot be standard input" 1
          else
            match ← readInputs launch.name (fun _ => "read error") [one, other] with
            | some [a, b] => do
                let progress :=
                  plan.join (one, other) (linesEndedBy plan.lineEnd [a])
                    (linesEndedBy plan.lineEnd [b])
                endPairing launch.name (String.join progress.printed.reverse) progress.warnings
                  progress.isHalted
            | _ => pure 1

end Joining

/-- Join the lines of two sorted files that have a field in common. -/
def join : Program :=
  Joining.program

end Programs
end CameraFleet
