import CameraFleet.Programs.Print
import CameraFleet.Programs.Sort

/-!
# Parts of lines

Lines are cut into fields, pasted together, and counted where they are repeated.
-/

namespace CameraFleet
namespace Programs

open Host

/-! ## Cutting -/

/-- A range of places; without a last one it goes on to the end. -/
structure PlaceRange where
  /-- The first place. -/
  first : Nat
  /-- The last place. -/
  last : Option Nat
  deriving Repr, DecidableEq

namespace PlaceRange

/-- Whether a place is in a range. -/
def holds (range : PlaceRange) (place : Nat) : Bool :=
  range.first ≤ place && range.last.all (place ≤ ·)

/-- The least number that is too large for a place. -/
def tooLarge : Nat := 18446744073709551615

/-- Read a range, or say what is wrong with it. -/
def read (ofFields : Bool) (text : Octets) : Except Octets PlaceRange := do
  let numbered : Octets :=
    if ofFields then "fields are numbered from 1"
    else "byte/character positions are numbered from 1"
  let number (text : Octets) : Except Octets Nat :=
    match natural? text with
    | some n =>
        if n < tooLarge then
          if n = 0 then throw numbered else pure n
        else if ofFields then throw s!"field number {Quoted.plain text} is too large"
        else throw s!"byte/character offset {Quoted.plain text} is too large"
    | none =>
        if ofFields then throw s!"invalid field value {Quoted.plain text}"
        else throw s!"invalid byte/character position {Quoted.plain text}"
  match text.splitOn "-" with
  | [""] => throw numbered
  | [only] => do
      let n ← number only
      pure ⟨n, some n⟩
  | ["", ""] => throw "invalid range with no endpoint: -"
  | [first, ""] => do pure ⟨← number first, none⟩
  | ["", last] => do pure ⟨1, some (← number last)⟩
  | [first, last] => do
      let a ← number first
      let b ← number last
      if b < a then throw "invalid decreasing range" else pure ⟨a, some b⟩
  | _ => throw (if ofFields then "invalid field range" else "invalid byte or character range")

/-- Read a list of ranges, or say what is wrong with it. -/
def readList (ofFields : Bool) (text : Octets) : Except Octets (List PlaceRange) :=
  let isBreak (c : Char) : Bool := c == ',' || c == ' ' || c == '\t'
  let parts := (text.map fun c => if isBreak c then ',' else c).splitOn ","
  parts.mapM (read ofFields)

end PlaceRange

/-- How lines are cut. -/
structure Cutting where
  /-- The places that are kept. -/
  ranges : List PlaceRange
  /-- Whether the other places are kept. -/
  complement : Bool
  /-- The character between fields; none if places are those of bytes. -/
  delimiter : Option Char
  /-- What stands between the fields that are kept. -/
  joiner : Octets
  /-- Whether lines without the character between fields are left out. -/
  onlyDelimited : Bool
  deriving Repr, DecidableEq

namespace Cutting

/-- Whether a place is kept. -/
def keeps (cutting : Cutting) (place : Nat) : Bool :=
  cutting.ranges.any (·.holds place) != cutting.complement

/-- The members of a list at the places that are kept. -/
def kept (cutting : Cutting) (members : List α) : List α :=
  (members.zipIdx.filter fun (_, place) => cutting.keeps (place + 1)).map (·.1)

/-- What is kept of a line, if anything is. -/
def line? (cutting : Cutting) (line : Octets) : Option Octets :=
  match cutting.delimiter with
  | none => some (String.ofList (cutting.kept line.toList))
  | some c =>
      if !line.contains c then if cutting.onlyDelimited then none else some line
      else
        let fields := line.splitOn (String.singleton c)
        some (String.intercalate cutting.joiner (cutting.kept fields))

/-- The cutting that options ask for, or what is wrong with them. -/
def ofOptions (given : List Given) : Except Octets Cutting := do
  let lists := given.filter fun option => ['b', 'c', 'f'].contains option.letter
  match lists with
  | [] => throw "you must specify a list of bytes, characters, or fields"
  | [list] => do
      let ofFields := list.letter == 'f'
      let delimiter ←
        match argumentOf? given 'd' with
        | none => pure '\t'
        | some text =>
            match text.toList with
            | [] => pure '\x00'
            | [c] => pure c
            | _ => throw "the delimiter must be a single character"
      if !ofFields && (argumentOf? given 'd').isSome then
        throw "an input delimiter may be specified only when operating on fields"
      if !ofFields && isGiven given 's' then
        throw "suppressing non-delimited lines makes sense\n\tonly when operating on fields"
      let ranges ← PlaceRange.readList ofFields (list.argument.getD "")
      pure
        { ranges, complement := isGiven given 'C'
          delimiter := if ofFields then some delimiter else none
          joiner := (argumentOf? given 'O').getD (String.singleton delimiter)
          onlyDelimited := isGiven given 's' }
  | _ => throw "only one list may be specified"

end Cutting

/-- Complain that a file cannot be used. -/
def warnOfFile (name operand : Octets) (fault : Fault) : Act Unit :=
  warn name s!"{Quoted.wordIfNeeded operand}: {fault.text}"

/-- Print parts of the lines of files. -/
def cut : Program :=
  withOptions
    { letters :=
        [('b', .something), ('c', .something), ('f', .something), ('d', .something),
          ('n', .nothing), ('s', .nothing), ('z', .nothing)]
      words :=
        [("bytes", 'b', .something), ("characters", 'c', .something),
          ("fields", 'f', .something), ("delimiter", 'd', .something),
          ("only-delimited", 's', .nothing), ("complement", 'C', .nothing),
          ("output-delimiter", 'O', .something), ("zero-terminated", 'z', .nothing)] } 1
    fun launch given operands => do
      match Cutting.ofOptions given with
      | .error reason => misuse launch.name reason 1
      | .ok cutting => do
          let (texts, status) ← gather (warnOfFile launch.name) (orInput operands)
          let lineEnd := itemEnd given
          let lines := (linesEndedBy lineEnd texts).filterMap cutting.line?
          printing launch.name (String.join (lines.map (· ++ lineEnd))) status

/-! ## Pasting -/

/-- The next line of each source, by its number, and the sources without these lines. -/
def takeRow (sources : List (Nat × List Octets)) :
    List Nat -> List (Option Octets) × List (Nat × List Octets)
  | [] => ([], sources)
  | number :: rest =>
      let lines := (sources.lookup number).getD []
      let left := sources.map fun (other, old) =>
        if other == number then (other, old.drop 1) else (other, old)
      let (row, left) := takeRow left rest
      (lines.head? :: row, left)

/-- Join columns by delimiters, which are used in turn. -/
def joinRow (delimiters : List Octets) (columns : List Octets) : Octets :=
  match columns with
  | [] => ""
  | first :: rest =>
      rest.zipIdx.foldl (fun text (column, place) =>
        text ++ delimiters.getD (place % max 1 delimiters.length) "" ++ column) first

/-- The rows of some sources, whose numbers say which source each column comes from. -/
def pasteRows
    (delimiters : List Octets)
    (columns : List Nat) :
    Nat -> List (Nat × List Octets) -> List Octets
  | 0, _ => []
  | fuel + 1, sources =>
      let (row, left) := takeRow sources columns
      if row.all Option.isNone then []
      else
        joinRow delimiters (row.map (·.getD "")) :: pasteRows delimiters columns fuel left

/-- The delimiters of a list that may have escapes. -/
def delimitersOf : List Char -> List Octets
  | '\\' :: '0' :: rest => "" :: delimitersOf rest
  | '\\' :: c :: rest =>
      String.singleton ((Escape.letters.lookup c).getD c) :: delimitersOf rest
  | c :: rest => String.singleton c :: delimitersOf rest
  | [] => []

/-- The number of the source of each operand; operands that mean the usual input share one. -/
def sourceNumbers (operands : List Octets) : List Nat :=
  let input := operands.idxOf "-"
  operands.zipIdx.map fun (operand, place) => if operand == "-" then input else place

/-- Print the lines of files side by side. -/
def paste : Program :=
  withOptions
    { letters := [('d', .something), ('s', .nothing), ('z', .nothing)]
      words :=
        [("delimiters", 'd', .something), ("serial", 's', .nothing),
          ("zero-terminated", 'z', .nothing)] } 1
    fun launch given operands => do
      let inputs := orInput operands
      let lineEnd := itemEnd given
      let delimiters := delimitersOf ((argumentOf? given 'd').getD "\t").toList
      let delimiters := if delimiters.isEmpty then [""] else delimiters
      let numbers := sourceNumbers inputs
      let (texts, status) ← gather (warnOfFile launch.name) inputs
      let sources := texts.zipIdx.map fun (text, place) => (place, linesEndedBy lineEnd [text])
      if status != 0 && !isGiven given 's' then pure status
      else
        let rows :=
          if isGiven given 's' then sources.map fun (_, lines) => joinRow delimiters lines
          else
            let longest := (sources.map fun source => source.2.length).foldl max 0
            pasteRows delimiters numbers (longest + 1) sources
        printing launch.name (String.join (rows.map (· ++ lineEnd))) status

/-! ## Repeated lines -/

/-- Which lines are printed, and how they are compared. -/
structure Repetition where
  /-- Whether the number of repetitions is shown. -/
  counts : Bool
  /-- Whether lines that are not repeated are left out. -/
  onlyRepeated : Bool
  /-- Whether lines that are repeated are left out. -/
  onlyUnique : Bool
  /-- Whether all repeated lines are shown. -/
  all : Bool
  /-- Whether the case of letters does not count. -/
  foldsCase : Bool
  /-- The number of fields that are not compared. -/
  fields : Nat
  /-- The number of characters that are not compared. -/
  chars : Nat
  /-- The number of characters that are compared. -/
  width : Option Nat
  deriving Repr, DecidableEq

namespace Repetition

/-- The part of a line that is compared. -/
def key (repetition : Repetition) (line : Octets) : List Char :=
  let chars := (SortKey.afterFields none repetition.fields line.toList).drop repetition.chars
  let chars :=
    match repetition.width with
    | some width => chars.take width
    | none => chars
  if repetition.foldsCase then chars.map Char.toUpper else chars

/-- The groups of lines that repeat each other. -/
def groups (repetition : Repetition) : List Octets -> List (List Octets)
  | [] => []
  | line :: rest =>
      match groups repetition rest with
      | (next :: more) :: others =>
          if repetition.key line == repetition.key next then (line :: next :: more) :: others
          else [line] :: (next :: more) :: others
      | others => [line] :: others

/-- What is printed of a group. -/
def shown (repetition : Repetition) (group : List Octets) : List Octets :=
  let count := group.length
  if (repetition.onlyRepeated && count == 1) || (repetition.onlyUnique && count != 1) then []
  else if repetition.all then if count == 1 then [] else group
  else
    (group.take 1).map fun line =>
      if repetition.counts then rightAligned 7 count ++ " " ++ line else line

end Repetition

/-- The number that an option gives, or what is wrong with it. -/
def countOption
    (given : List Given)
    (letter : Char)
    (what : Octets) : Except Octets (Option Nat) :=
  match argumentOf? given letter with
  | none => .ok none
  | some text =>
      match natural? text with
      | some n => .ok (some n)
      | none => .error s!"{Quoted.wordIfNeeded text}: invalid number of {what}"

/-- The repetition that options ask for, or what is wrong with them. -/
def repetitionOf (given : List Given) : Except Octets Repetition := do
  let fields ← countOption given 'f' "fields to skip"
  let chars ← countOption given 's' "bytes to skip"
  let width ← countOption given 'w' "bytes to compare"
  pure
    { counts := isGiven given 'c', onlyRepeated := isGiven given 'd'
      onlyUnique := isGiven given 'u', all := isGiven given 'D', foldsCase := isGiven given 'i'
      fields := fields.getD 0, chars := chars.getD 0, width }

/-- Print lines without those that repeat the line before. -/
def uniq : Program :=
  withOptions
    { letters :=
        [('c', .nothing), ('d', .nothing), ('D', .nothing), ('i', .nothing), ('u', .nothing),
          ('z', .nothing), ('f', .something), ('s', .something), ('w', .something)]
      words :=
        [("count", 'c', .nothing), ("repeated", 'd', .nothing),
          ("ignore-case", 'i', .nothing), ("unique", 'u', .nothing),
          ("skip-fields", 'f', .something), ("skip-chars", 's', .something),
          ("check-chars", 'w', .something), ("zero-terminated", 'z', .nothing)] } 1
    fun launch given operands => do
      match repetitionOf given, operands.drop 2 with
      | .error reason, _ => fail launch.name reason 1
      | _, extra :: _ => misuse launch.name s!"extra operand {Quoted.plain extra}" 1
      | .ok repetition, [] => do
          let (texts, status) ← gather (warnOfFile launch.name) ((orInput operands).take 1)
          if status != 0 then pure status
          else
            let lineEnd := itemEnd given
            let lines := (repetition.groups (linesEndedBy lineEnd texts)).flatMap repetition.shown
            let text := String.join (lines.map (· ++ lineEnd))
            match operands with
            | [_, target] =>
                match ← Act.call (.open target .writing) with
                | .error fault => do
                    warnOfFile launch.name target fault
                    pure 1
                | .ok descriptor => do
                    let written ← Act.call (.write descriptor (Octets.toBytes text))
                    pure (if written.isOk then 0 else 1)
            | _ => printing launch.name text 0

end Programs
end CameraFleet
