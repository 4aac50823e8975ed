import CameraFleet.Programs.Copy
import CameraFleet.Text.OrderedRegex.Reader
import CameraFleet.Text.Regex.Reader

/-!
# Lines that match

Lines are selected that a pattern matches, or those that none matches. What is
printed is the lines, the parts of them that match, or which files have them.
-/

namespace CameraFleet
namespace Programs

open Host

namespace Filter

/-- What a match has to cover. -/
inductive Extent
  /-- Any part of a line. -/
  | anything
  /-- Whole words. -/
  | words
  /-- The whole line. -/
  | line
  deriving Repr, DecidableEq

/-- What is sought. -/
structure Matcher where
  /-- The patterns. -/
  patterns : List Regex
  /-- A pattern whose possibilities have an order, which takes the place of the others. -/
  ordered : Option OrderedRegex := none
  /-- Whether letters are the same in both cases. -/
  foldsCase : Bool := false
  /-- What a match has to cover. -/
  extent : Extent := .anything

namespace Matcher

/-- The text in which something is sought. -/
def subject (matcher : Matcher) (line : Octets) : Regex.Subject :=
  { chars := line.toList.toArray, foldsCase := matcher.foldsCase }

/-- Whether a part covers what a match has to cover. -/
def covers
    (matcher : Matcher)
    (subject : Regex.Subject)
    (start stop : Nat) : Bool :=
  match matcher.extent with
  | .anything => true
  | .words => !subject.hasWordBefore start && !subject.hasWordAt stop
  | .line => start == 0 && stop == subject.chars.size

/-- The end of the longest match at a place. -/
def stopAt?
    (matcher : Matcher)
    (subject : Regex.Subject)
    (start : Nat) : Option Nat :=
  let stops := matcher.patterns.flatMap fun regex =>
    let subject := { subject with remembers := regex.looksBack }
    let found := (Regex.follow subject regex [{ place := start }]).map (·.place)
    let fitting := found.filter (matcher.covers subject start)
    if matcher.extent == .words && fitting.contains start && 1 < found.length then
      let longest := found.foldl max start
      if matcher.covers subject start longest then fitting else fitting.filter (start < ·)
    else fitting
  stops.foldl (fun best stop => some (max stop (best.getD 0))) none

/-- The first match from a place on: where it starts and ends. -/
def findOn
    (matcher : Matcher)
    (subject : Regex.Subject) : Nat -> Nat -> Option (Nat × Nat)
  | 0, _ => none
  | count + 1, start =>
      match matcher.stopAt? subject start with
      | some stop => some (start, stop)
      | none =>
          if matcher.extent == .line then none else findOn matcher subject count (start + 1)

/-- The first match from a place on: where it starts and ends. -/
def find?
    (matcher : Matcher)
    (subject : Regex.Subject)
    (start : Nat) : Option (Nat × Nat) :=
  match matcher.ordered with
  | some regex => regex.search? subject.chars start
  | none => matcher.findOn subject (subject.chars.size + 1 - start) start

/-- Whether there is a match in a line. -/
def accepts (matcher : Matcher) (line : Octets) : Bool :=
  (matcher.find? (matcher.subject line) 0).isSome

/-- The matches in a line from a place on that are not empty; the first number bounds them. -/
def partsOn
    (matcher : Matcher)
    (subject : Regex.Subject) : Nat -> Nat -> List (Nat × Nat)
  | 0, _ => []
  | fuel + 1, start =>
      match matcher.find? subject start with
      | none => []
      | some (first, stop) =>
          if first < stop then (first, stop) :: partsOn matcher subject fuel stop
          else partsOn matcher subject fuel (stop + 1)

/-- The matches in a line that are not empty: their places and texts. -/
def parts (matcher : Matcher) (line : Octets) : List (Nat × Octets) :=
  let subject := matcher.subject line
  (matcher.partsOn subject (subject.chars.size + 1) 0).map fun (start, stop) =>
    (start, subject.between start stop)

end Matcher

/-- What is printed. -/
inductive Report
  /-- The selected lines. -/
  | lines
  /-- The parts of them that match. -/
  | parts
  /-- How many lines are selected. -/
  | count
  /-- The files with selected lines. -/
  | filesWith
  /-- The files without selected lines. -/
  | filesWithout
  /-- Nothing. -/
  | nothing
  deriving Repr, DecidableEq

/-- How lines are selected and printed. -/
structure Plan where
  /-- What is sought. -/
  matcher : Matcher
  /-- Whether lines without a match are selected. -/
  inverted : Bool := false
  /-- What is printed. -/
  report : Report := .lines
  /-- The most lines that are selected of a file. -/
  most : Option Nat := none
  /-- How many lines are printed before a selected one. -/
  before : Nat := 0
  /-- How many lines are printed after a selected one. -/
  after : Nat := 0
  /-- Whether groups of lines are separated. -/
  hasGroups : Bool := false
  /-- Whether files are named. -/
  named : Bool := false
  /-- Whether lines are numbered. -/
  numbered : Bool := false
  /-- Whether the places of lines are shown. -/
  placed : Bool := false
  /-- Whether bytes that are no text count as text. -/
  allText : Bool := false
  /-- Whether names end with a zero byte. -/
  zeroNames : Bool := false
  /-- Whether complaints about files are left out. -/
  quiet : Bool := false
  /-- The byte that ends a line. -/
  lineEnd : UInt8 := 10

/-- A line: its number, the place where it starts, and its text. -/
structure Line where
  /-- The number. -/
  number : Nat
  /-- The place in the file. -/
  place : Nat
  /-- The text without the end. -/
  text : Octets
  deriving Repr, DecidableEq

/-- How far a file has been searched. -/
structure Progress where
  /-- The bytes of a line that has not ended yet. -/
  unfinished : ByteArray := .empty
  /-- The number of lines. -/
  number : Nat := 0
  /-- The place where the next line starts. -/
  place : Nat := 0
  /-- The number of selected lines. -/
  selected : Nat := 0
  /-- The latest lines that have not been printed, the last one first. -/
  waiting : List Line := []
  /-- How many lines are still to be printed after a selected one. -/
  trailing : Nat := 0
  /-- The number of the last line that was printed. -/
  printed : Option Nat := none
  /-- Whether something has been printed. -/
  hasGroup : Bool := false
  /-- Whether there are bytes that are no text. -/
  binary : Bool := false
  /-- Whether a selected line has not been printed because it is no text. -/
  hidden : Bool := false
  /-- Whether as many lines as possible have been selected. -/
  full : Bool := false
  /-- Whether the rest of the file does not matter. -/
  settled : Bool := false

namespace Plan

/-- The end of a line as a text. -/
def lineBreak (plan : Plan) : Octets :=
  String.singleton (Char.ofNat plan.lineEnd.toNat)

/-- What stands before a line. -/
def lead
    (plan : Plan)
    (file : Octets)
    (line : Line)
    (shift : Nat)
    (sign : Octets) : Octets :=
  let name := if plan.named then file ++ (if plan.zeroNames then "\x00" else sign) else ""
  let number := if plan.numbered then toString line.number ++ sign else ""
  let place := if plan.placed then toString (line.place + shift) ++ sign else ""
  name ++ number ++ place

/-- A line as it is printed. -/
def written
    (plan : Plan)
    (file : Octets)
    (line : Line)
    (sign : Octets) : Octets :=
  if plan.report == .parts then
    if sign == "-" || plan.inverted then ""
    else
      String.join ((plan.matcher.parts line.text).map fun (shift, text) =>
        plan.lead file line shift sign ++ text ++ plan.lineBreak)
  else plan.lead file line 0 sign ++ line.text ++ plan.lineBreak

/-- Whether lines are printed. -/
def printsLines (plan : Plan) : Bool :=
  plan.report == .lines || plan.report == .parts

/-- Go on after a selected line; the text is what is printed. -/
def select
    (plan : Plan)
    (file : Octets)
    (progress : Progress)
    (line : Line) : Progress × Octets :=
  let selected := progress.selected + 1
  let full := plan.most == some selected
  let progress := { progress with selected, full }
  if plan.report == .count then ({ progress with settled := full }, "")
  else if !plan.printsLines then ({ progress with settled := true }, "")
  else if progress.binary && !plan.allText then
    ({ progress with hidden := true, settled := true }, "")
  else
    let earlier := progress.waiting.reverse
    let first := ((earlier.head?.map (·.number)).getD line.number)
    let isApart := plan.hasGroups && progress.hasGroup && progress.printed != some (first - 1)
    let text :=
      (if isApart then "--\n" else "") ++ String.join (earlier.map (plan.written file · "-")) ++
        plan.written file line ":"
    ({ progress with
        waiting := [], trailing := plan.after, printed := some line.number, hasGroup := true
        settled := full && plan.after == 0 }, text)

/-- Go on after a line that is not selected; the text is what is printed. -/
def pass
    (plan : Plan)
    (file : Octets)
    (progress : Progress)
    (line : Line) : Progress × Octets :=
  if plan.printsLines && progress.trailing != 0 then
    let trailing := progress.trailing - 1
    ({ progress with
        trailing, printed := some line.number, settled := progress.full && trailing == 0 },
      plan.written file line "-")
  else ({ progress with waiting := (line :: progress.waiting).take plan.before }, "")

/-- Go on after a line; the text is what is printed. -/
def step
    (plan : Plan)
    (file : Octets)
    (progress : Progress)
    (bytes : ByteArray) : Progress × Octets :=
  let text := Octets.ofBytes bytes
  let line : Line := { number := progress.number + 1, place := progress.place, text }
  let progress :=
    { progress with number := line.number, place := progress.place + bytes.size + 1 }
  if !progress.full && plan.matcher.accepts text != plan.inverted then
    plan.select file progress line
  else plan.pass file progress line

/-- Go on over the lines in some bytes; the first number bounds the lines. -/
def feedLines
    (plan : Plan)
    (file : Octets) :
    Nat -> Progress -> ByteArray -> Octets -> Progress × Octets
  | 0, progress, _, done => (progress, done)
  | fuel + 1, progress, bytes, done =>
      if progress.settled then ({ progress with unfinished := bytes }, done)
      else
        match bytes.findIdx? (· == plan.lineEnd) with
        | none => ({ progress with unfinished := bytes }, done)
        | some stop =>
            let (progress, text) := plan.step file progress (bytes.extract 0 stop)
            feedLines plan file fuel progress (bytes.extract (stop + 1) bytes.size) (done ++ text)

/-- The search of a file. -/
def feeder (plan : Plan) (file : Octets) : Feeder Progress where
  feed progress bytes :=
    let isBinary := plan.lineEnd != 0 && bytes.data.contains 0
    let progress := { progress with binary := progress.binary || isBinary }
    let (progress, text) :=
      plan.feedLines file (bytes.size + 1) progress (progress.unfinished ++ bytes) ""
    (progress, Octets.toBytes text)
  enough progress := progress.settled

/-- What is printed at the end of a file. -/
def close
    (plan : Plan)
    (file : Octets)
    (progress : Progress) : Octets :=
  let name := file ++ (if plan.zeroNames then "\x00" else "\n")
  match plan.report with
  | .count =>
      let lead := if plan.named then file ++ (if plan.zeroNames then "\x00" else ":") else ""
      lead ++ toString progress.selected ++ "\n"
  | .filesWith => if progress.selected != 0 then name else ""
  | .filesWithout => if progress.selected == 0 then name else ""
  | _ => ""

/-- Whether the search is over after a file. -/
def isDone (plan : Plan) (anySelected : Bool) : Bool :=
  plan.report == .nothing && anySelected

/-- What came out of searching files. -/
structure Outcome where
  /-- Whether a line was selected. -/
  selected : Bool := false
  /-- Whether there was something to complain about. -/
  failed : Bool := false
  /-- Whether something has been printed. -/
  hasGroup : Bool := false
  /-- What is still to be printed. -/
  pending : ByteArray := .empty

/-- Search an input; none if printing failed. -/
def searchInput
    (plan : Plan)
    (name operand : Octets)
    (outcome : Outcome) : Act (Option Outcome) := do
  let file := if operand == "-" then "(standard input)" else operand
  let complain (fault : Fault) (outcome : Outcome) : Act (Option Outcome) := do
    if !plan.quiet then warn name s!"{file}: {fault.text}"
    pure (some { outcome with failed := true })
  match ← openInput operand with
  | .error fault => complain fault outcome
  | .ok descriptor => do
      let progress : Progress := { hasGroup := outcome.hasGroup }
      let found ← (plan.feeder file).run name descriptor manyTurns progress outcome.pending
      match found with
      | .error none => pure none
      | .error (some fault) => do
          closeInput descriptor
          complain fault { outcome with pending := .empty }
      | .ok (progress, pending) => do
          let (progress, text) :=
            if progress.settled || progress.unfinished.isEmpty then (progress, "")
            else plan.step file progress progress.unfinished
          if descriptor == 0 then
            if progress.full then Act.call (.goBack 0 progress.unfinished.size)
          else closeInput descriptor
          let pending := pending ++ Octets.toBytes (text ++ plan.close file progress)
          let outcome :=
            { outcome with
              selected := outcome.selected || progress.selected != 0
              hasGroup := progress.hasGroup, pending }
          if !progress.hidden then pure (some outcome)
          else if ← emit name pending then do
            warn name s!"{file}: binary file matches"
            pure (some { outcome with pending := .empty })
          else pure none

/-- Search inputs one after another; none if printing failed. -/
def searchEach
    (plan : Plan)
    (name : Octets) : List Octets -> Outcome -> Act (Option Outcome)
  | [], outcome => pure (some outcome)
  | operand :: rest, outcome => do
      match ← plan.searchInput name operand outcome with
      | none => pure none
      | some outcome =>
          if plan.isDone outcome.selected then pure (some { outcome with failed := false })
          else searchEach plan name rest outcome

end Plan

/-! ## Options -/

/-- The options. -/
def options : OptionTable where
  letters :=
    ("EFGHLPUZabchilnoqrsvwxyz0123456789".toList.map fun letter => (letter, .nothing)) ++
      ("efmABC".toList.map fun letter => (letter, .something))
  words :=
    [("extended-regexp", 'E', .nothing), ("fixed-strings", 'F', .nothing),
      ("basic-regexp", 'G', .nothing), ("perl-regexp", 'P', .nothing), ("with-filename", 'H', .nothing),
      ("files-without-match", 'L', .nothing), ("null", 'Z', .nothing), ("text", 'a', .nothing),
      ("byte-offset", 'b', .nothing), ("count", 'c', .nothing), ("no-filename", 'h', .nothing),
      ("ignore-case", 'i', .nothing), ("files-with-matches", 'l', .nothing),
      ("line-number", 'n', .nothing), ("only-matching", 'o', .nothing), ("quiet", 'q', .nothing),
      ("silent", 'q', .nothing), ("recursive", 'r', .nothing), ("no-messages", 's', .nothing),
      ("invert-match", 'v', .nothing), ("word-regexp", 'w', .nothing),
      ("line-regexp", 'x', .nothing), ("null-data", 'z', .nothing), ("regexp", 'e', .something),
      ("file", 'f', .something), ("max-count", 'm', .something),
      ("after-context", 'A', .something), ("before-context", 'B', .something),
      ("context", 'C', .something), ("color", 'k', .perhaps), ("colour", 'k', .perhaps),
      ("line-buffered", 'u', .nothing), ("binary", 'U', .nothing)]

/-- The number of lines around a selected one that an option asks for. -/
def contextOf
    (given : List Given)
    (letter : Char) : Except Octets (Option Nat) :=
  match argumentOf? given letter with
  | none => .ok none
  | some text =>
      match natural? text with
      | some n => .ok (some n)
      | none => .error s!"{text}: invalid context length argument"

/-- The most lines that are selected; none if there is no bound. -/
def mostOf (given : List Given) : Except Octets (Option Nat) :=
  match argumentOf? given 'm' with
  | none => .ok none
  | some text =>
      match integer? text with
      | some n => .ok (if n < 0 then none else some n.toNat)
      | none => .error "invalid max count"

/-- What is printed. -/
def reportOf (given : List Given) (most : Option Nat) : Report :=
  if isGiven given 'q' then .nothing
  else if isGiven given 'l' || isGiven given 'L' then
    if lastOf? given ['l', 'L'] == some 'l' then .filesWith else .filesWithout
  else if isGiven given 'c' then .count
  else if most == some 0 then .nothing
  else if isGiven given 'o' then .parts
  else .lines

/-- The patterns of an extended regular expression. -/
def extendedDialect : Regex.Dialect :=
  { extended := true, stray := .skipped, looseGroups := true, looseCounts := true }

/-- A text whose characters stand for themselves. -/
def fixed (text : Octets) : Regex :=
  text.toList.foldr (fun c rest => Regex.join (.char c) rest) .empty

/-- The regular expression of a pattern, or what is wrong with it. -/
def regexOf (kind : Option Char) (text : Octets) : Except Octets Regex :=
  if kind == some 'F' then .ok (fixed text)
  else if Regex.isLooseClass text.toList then
    .error Regex.looseClassText
  else
    let dialect := if kind == some 'E' then extendedDialect else {}
    match Regex.read dialect text with
    | .ok regex => .ok regex
    | .error mistake => .error mistake.text

/-- The warning about an operator at the start of an extended pattern. -/
def warningOf? (kind : Option Char) (text : Octets) : Option Octets :=
  if kind != some 'E' then none
  else
    match text.toList with
    | '\x7b' :: _ => some "\x7b...\x7d at start of expression"
    | c :: _ =>
        if c == '*' || c == '+' || c == '?' then
          some (String.singleton c ++ " at start of expression")
        else none
    | [] => none

/-- The letters of the kinds of patterns. -/
def kindLetters : List Char := ['E', 'F', 'G', 'P']

/-- The pattern whose possibilities have an order, or what is wrong with it. -/
def orderedOf
    (extent : Extent)
    (foldsCase : Bool)
    (patterns : List Octets) : Except Octets OrderedRegex := do
  match patterns with
  | [text] =>
      let regex ← OrderedRegex.read foldsCase text
      let word : OrderedRegex := .set [.named "word" false] false false
      pure <|
        match extent with
        | .anything => regex
        | .words => .sequence (.behind word true) (.sequence regex (.ahead word true))
        | .line => .sequence (.anchor .lineStart) (.sequence regex (.anchor .lineEnd))
  | _ => throw "the -P option only supports a single pattern"

/-- The kinds of patterns that are asked for. -/
def kinds (given : List Given) : List Char :=
  ((given.map (·.letter)).filter kindLetters.contains).eraseDups

/-- How lines are selected and printed, or what is wrong with the options. -/
def planOf
    (given : List Given)
    (patterns : List Octets)
    (operands : List Octets) : Except Octets Plan := do
  let digits := (given.map (·.letter)).filter Char.isDigit
  let short := natural? (String.ofList digits)
  let around ← contextOf given 'C'
  let around := if around.isSome then around else short
  let before ← contextOf given 'B'
  let after ← contextOf given 'A'
  let before := if before.isSome then before else around
  let after := if after.isSome then after else around
  let most ← mostOf given
  let kind := lastOf? given kindLetters
  let extent : Extent :=
    if isGiven given 'x' then .line else if isGiven given 'w' then .words else .anything
  let foldsCase := isGiven given 'i' || isGiven given 'y'
  let ordered ←
    if kind == some 'P' then (orderedOf extent foldsCase patterns).map some else pure none
  let patterns ← if kind == some 'P' then pure [] else patterns.mapM (regexOf kind)
  let manyFiles := 1 < operands.length || isGiven given 'r'
  let named :=
    match lastOf? given ['H', 'h'] with
    | some letter => letter == 'H'
    | none => manyFiles
  pure
    { matcher :=
        { patterns, ordered, foldsCase, extent }
      inverted := isGiven given 'v', report := reportOf given most, most
      before := before.getD 0, after := after.getD 0
      hasGroups := before.isSome || after.isSome, named, numbered := isGiven given 'n'
      placed := isGiven given 'b', allText := isGiven given 'a', zeroNames := isGiven given 'Z'
      quiet := isGiven given 's', lineEnd := if isGiven given 'z' then 0 else 10 }

/-- The hint at the end of a complaint about arguments. -/
def usage (name : Octets) : Octets :=
  s!"Usage: {name} [OPTION]... PATTERNS [FILE]...\n" ++ hint name

/-- The patterns in some texts, one in each line. -/
def patternsIn (texts : List Octets) : List Octets :=
  texts.flatMap (·.splitOn "\n")

/-- The patterns in files; none if one cannot be read. -/
def readPatterns (name : Octets) : List Octets -> Act (Option (List Octets))
  | [] => pure (some [])
  | operand :: rest => do
      let refuse (fault : Fault) : Act (Option (List Octets)) := do
        warn name s!"{operand}: {fault.text}"
        pure none
      match ← openInput operand with
      | .error fault => refuse fault
      | .ok descriptor => do
          let found ← readAll descriptor
          closeInput descriptor
          match found, ← readPatterns name rest with
          | .error fault, _ => refuse fault
          | .ok _, none => pure none
          | .ok bytes, some others => pure (some ((linesOf (Octets.ofBytes bytes)).1 ++ others))

/-- The files below some operands; the number bounds the depth. -/
def filesBelow : Nat -> List Octets -> Act (List Octets)
  | 0, operands => pure operands
  | _ + 1, [] => pure []
  | fuel + 1, operand :: rest => do
      let here ←
        match ← Act.call (.look operand true) with
        | .ok { kind := .entry .directory, .. } => do
            match ← Act.call (.names operand) with
            | .ok names =>
                let lead := if operand.endsWith "/" then operand else operand ++ "/"
                filesBelow fuel (names.map (lead ++ ·))
            | .error _ => pure [operand]
        | _ => pure [operand]
      let others ← filesBelow fuel rest
      pure (here ++ others)

/-- The files below the current directory. -/
def filesHere : Act (List Octets) := do
  let files ← filesBelow 64 ["."]
  pure (files.map fun file => String.ofList (file.toList.drop 2))

/-- Print the lines that match. -/
def search : Program := fun launch => do
  match options.read launch.args with
  | .error reason => do
      Act.complain (s!"{launch.name}: {reason}\n" ++ usage launch.name)
      pure 2
  | .ok (given, operands) => do
      let complain (reason : Octets) : Act Nat := fail launch.name reason 2
      let sources := given.filterMap fun option =>
        if option.letter == 'f' then option.argument else none
      let texts := given.filterMap fun option =>
        if option.letter == 'e' then option.argument else none
      let hasPatterns := isGiven given 'e' || isGiven given 'f'
      let (texts, operands) := if hasPatterns then (texts, operands) else
        (operands.take 1, operands.drop 1)
      if !hasPatterns && texts.isEmpty then do
        Act.complain (usage launch.name)
        pure 2
      else if 1 < (kinds given).length then complain "conflicting matchers specified"
      else
        match ← readPatterns launch.name sources with
        | none => pure 2
        | some found => do
            let patterns := patternsIn texts ++ found
            let kind := lastOf? given kindLetters
            match planOf given patterns operands with
            | .error reason => complain reason
            | .ok plan => do
                for warning in patterns.filterMap (warningOf? kind) do
                  warn launch.name s!"warning: {warning}"
                if plan.most == some 0 then pure 1
                else
                  let operands ←
                    if !isGiven given 'r' then pure (orInput operands)
                    else if operands.isEmpty then filesHere
                    else filesBelow 64 operands
                  match ← plan.searchEach launch.name operands {} with
                  | none => pure 2
                  | some outcome => do
                      if !(← emit launch.name outcome.pending) then pure 2
                      else pure (if outcome.failed then 2 else if outcome.selected then 0 else 1)

end Filter

/-- Print the lines that match. -/
def grep : Program :=
  Filter.search

end Programs
end CameraFleet
