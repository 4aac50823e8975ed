import CameraFleet.Programs.Basic
import CameraFleet.Programs.Escape
import CameraFleet.Text.Regex.Reader

/-!
# Editing scripts

An editing script is a list of commands. A command may select lines by one
address, or by two that say where a range of lines starts and ends, and it says
what is done with the lines that are selected.

A script is written in several parts, each of which is an argument or a file. A
text that a command inserts may start in one part and go on in the next.
-/

namespace CameraFleet
namespace Programs
namespace Editing

/-! ## Commands -/

/-- What is sought in a line. -/
structure Pattern where
  /-- The regular expression. -/
  regex : Regex
  /-- Whether letters are the same in both cases. -/
  foldsCase : Bool := false
  /-- Whether lines start and end inside of the text. -/
  hasLines : Bool := false

/-- What selects a line. -/
inductive Address
  /-- Its number. -/
  | line (number : Nat)
  /-- Its number: the first one, or so many steps after it. -/
  | step (first step : Nat)
  /-- That it is the last line. -/
  | last
  /-- That something is found in it: a pattern, or the one that was sought before. -/
  | finding (pattern : Option Pattern)

/-- Where a range of lines ends. -/
inductive RangeEnd
  /-- At an address. -/
  | address (address : Address)
  /-- So many lines later. -/
  | after (count : Nat)
  /-- At the next line whose number is a multiple of a number. -/
  | multiple (factor : Nat)

/-- Which lines a command is for. -/
structure Selection where
  /-- The address of the line, or of the first one of a range. -/
  first : Option Address := none
  /-- Where the range ends. -/
  last : Option RangeEnd := none
  /-- Whether it is for all other lines instead. -/
  inverted : Bool := false

/-- The case of a letter. -/
inductive LetterCase
  /-- A small letter. -/
  | lower
  /-- A capital letter. -/
  | upper
  deriving Repr, DecidableEq

/-- The letter in a case. -/
def LetterCase.of : LetterCase -> Char -> Char
  | .lower, c => c.toLower
  | .upper, c => c.toUpper

/-- How the case of letters changes. -/
structure Casing where
  /-- The case of all letters. -/
  all : Option LetterCase := none
  /-- The case of the first letter. -/
  first : Option LetterCase := none
  deriving Repr, DecidableEq

/-- A text with the case of its letters changed. -/
def Casing.of (casing : Casing) (text : List Char) : List Char :=
  let change (letterCase : Option LetterCase) (c : Char) : Char :=
    match letterCase with
    | some letterCase => letterCase.of c
    | none => c
  match text with
  | [] => []
  | c :: rest =>
      change (if casing.first.isSome then casing.first else casing.all) c ::
        rest.map (change casing.all)

/-- A piece of what takes the place of a match: a text, and what a group matched. -/
structure Piece where
  /-- The text. -/
  text : List Char
  /-- The number of the group. -/
  group : Option Nat := none
  /-- How the case of letters changes. -/
  casing : Casing := {}
  deriving Repr, DecidableEq

/-- The text of some pieces; a change of the first letter may be left over from before. -/
def textOfPieces (groupText : Nat -> List Char) : Option LetterCase -> List Piece -> List Char
  | _, [] => []
  | left, piece :: rest =>
      let own := piece.casing.first
      let first := if own.isSome then own else left
      let casing := { piece.casing with first }
      let start := casing.of piece.text
      let casing := if piece.text.isEmpty then casing else { casing with first := none }
      match piece.group.map groupText with
      | none => start ++ textOfPieces groupText none rest
      | some [] =>
          start ++ textOfPieces groupText (if own.isSome then casing.first else none) rest
      | some text => start ++ casing.of text ++ textOfPieces groupText none rest

/-- How matches are replaced. -/
structure Substitution where
  /-- What is sought: a pattern, or the one that was sought before. -/
  pattern : Option Pattern
  /-- What takes the place of a match. -/
  pieces : List Piece
  /-- Which of the matches is the first one that is replaced. -/
  number : Nat := 1
  /-- Whether all later ones are replaced, too. -/
  everywhere : Bool := false
  /-- Whether the line is printed. -/
  prints : Bool := false
  /-- Whether the line is printed before it is run as a command. -/
  printsBefore : Bool := false
  /-- Whether the line is run as a command, whose output takes its place. -/
  runs : Bool := false
  /-- The file to which the line is written. -/
  target : Option Octets := none

/-- When a command goes on elsewhere. -/
inductive Jump
  /-- Always. -/
  | always
  /-- If something was replaced. -/
  | ifReplaced
  /-- Unless something was replaced. -/
  | unlessReplaced
  deriving Repr, DecidableEq

/-- What a command does. -/
inductive Verb
  /-- The commands up to a place are for the selected lines. -/
  | block (stop : Nat)
  /-- Go on at a label, or at the end. -/
  | jump (condition : Jump) (label : Octets)
  /-- Print a text at the end of the cycle. -/
  | append (text : Octets)
  /-- Print a text. -/
  | insert (text : Octets)
  /-- Print a text in the place of lines. -/
  | change (text : Octets)
  /-- Drop the line. -/
  | delete
  /-- Drop the text up to the end of its first line. -/
  | deleteLine
  /-- Print what a command prints. -/
  | run (command : Octets)
  /-- Print the name of the file. -/
  | fileName
  /-- Print the number of the line. -/
  | lineNumber
  /-- Take the text that was kept. -/
  | get
  /-- Add the text that was kept. -/
  | getMore
  /-- Keep the text. -/
  | keep
  /-- Add the text to what was kept. -/
  | keepMore
  /-- Exchange the text for what was kept. -/
  | exchange
  /-- Take away the text. -/
  | clear
  /-- Print the text so that all its characters can be seen. -/
  | list (width : Option Nat)
  /-- Go on with the next line. -/
  | next
  /-- Add the next line. -/
  | nextMore
  /-- Print the text. -/
  | print
  /-- Print the first line of the text. -/
  | printLine
  /-- End after this line. -/
  | quit (status : Nat)
  /-- End at once. -/
  | leave (status : Nat)
  /-- Print a file at the end of the cycle. -/
  | readFile (path : Octets)
  /-- Print the next line of a file at the end of the cycle. -/
  | readLine (path : Octets)
  /-- Write the text to a file. -/
  | writeFile (path : Octets)
  /-- Write the first line of the text to a file. -/
  | writeLine (path : Octets)
  /-- Replace matches. -/
  | substitute (substitution : Substitution)
  /-- Replace characters. -/
  | translate (table : List (Char × Char))

/-- A command. -/
structure Command where
  /-- Which lines it is for. -/
  selection : Selection
  /-- What it does. -/
  verb : Verb

/-! ## Escapes -/

/-- The characters that letters after a backslash stand for. -/
def letters : List (Char × Char) :=
  [('a', '\x07'), ('f', '\x0c'), ('n', '\n'), ('r', '\r'), ('t', '\t'), ('v', '\x0b')]

/-- The character that is meant after a backslash, if it is one, and the characters after it. -/
def escape? : List Char -> Option (Char × List Char)
  | 'c' :: '\\' :: '\\' :: rest => some ('\x1c', rest)
  | 'c' :: c :: rest => some (Char.ofNat (c.toUpper.toNat ^^^ 64), rest)
  | c :: rest =>
      match [('d', 10, 3), ('o', 8, 3), ('x', 16, 2)].lookup c with
      | none => (letters.lookup c).map fun found => (found, rest)
      | some (base, most) =>
          match Escape.digits base most rest with
          | ([], _) => some (c, rest)
          | (digits, after) => some (Char.ofNat (Numeral.valueOf base digits % 256), after)
  | [] => none

/-- A text with its escapes replaced; other characters keep their backslash if they are to. -/
def withEscapes (literal other : Char -> List Char) : Nat -> List Char -> List Char
  | 0, _ | _, [] => []
  | fuel + 1, '\\' :: rest =>
      match escape? rest, rest with
      | some (c, after), _ => literal c ++ withEscapes literal other fuel after
      | none, c :: after => other c ++ withEscapes literal other fuel after
      | none, [] => []
  | fuel + 1, c :: rest => c :: withEscapes literal other fuel rest

/-- A text that is taken as it is, apart from its escapes. -/
def plainText (text : List Char) : List Char :=
  withEscapes (fun c => [c]) (fun c => [c]) (text.length + 1) text

/-- A written regular expression with those escapes replaced that are the same everywhere. -/
def patternText (text : List Char) : List Char :=
  withEscapes (fun c => [c]) (fun c => ['\\', c]) (text.length + 1) text

/-- The pieces that some characters after a text describe. -/
def piecesOn : List Char -> List Char -> Casing -> Casing -> List Piece
  | [], text, casing, _ => if text.isEmpty then [] else [{ text := text.reverse, casing }]
  | ['\\'], text, casing, _ => [{ text := text.reverse ++ ['\\'], casing }]
  | '\\' :: c :: rest, text, casing, later =>
      let piece : Piece := { text := text.reverse, casing }
      let all (letterCase : LetterCase) : Casing := { all := some letterCase }
      if c.isDigit then
        { piece with group := some (c.toNat - 48) } :: piecesOn rest [] later later
      else
        match c with
        | 'L' => piece :: piecesOn rest [] (all .lower) (all .lower)
        | 'U' => piece :: piecesOn rest [] (all .upper) (all .upper)
        | 'E' => piece :: piecesOn rest [] {} {}
        | 'l' => piece :: piecesOn rest [] { later with first := some .lower } later
        | 'u' => piece :: piecesOn rest [] { later with first := some .upper } later
        | _ => { piece with text := piece.text ++ [c] } :: piecesOn rest [] later later
  | '&' :: rest, text, casing, later =>
      { text := text.reverse, group := some 0, casing } :: piecesOn rest [] later later
  | c :: rest, text, casing, later => piecesOn rest (c :: text) casing later

/-- The pieces that a text describes. -/
def pieces (text : List Char) : List Piece :=
  let literal (c : Char) : List Char := if c == '&' || c == '\\' then ['\\', c] else [c]
  piecesOn (withEscapes literal (fun c => ['\\', c]) (text.length + 1) text) [] {} {}

/-! ## Reading -/

/-- Where a part of a script stands. -/
inductive Origin
  /-- It is an argument, the first one or a later one. -/
  | argument (number : Nat)
  /-- It is a file. -/
  | file (name : Octets)
  deriving Repr, DecidableEq

/-- A mistake in a script. -/
structure Mistake where
  /-- What is wrong. -/
  text : Octets
  /-- The number of characters before it, and the number of its line, if it has a place. -/
  place : Option (Nat × Nat) := none
  /-- The status with which the program ends. -/
  status : Nat := 1
  deriving Repr, DecidableEq

/-- The complaint about a mistake. -/
def Mistake.complaint (mistake : Mistake) : Origin -> Octets
  | .argument number =>
      match mistake.place with
      | some (used, _) => s!"-e expression #{number}, char {used}: {mistake.text}"
      | none => mistake.text
  | .file name =>
      match mistake.place with
      | some (_, line) => s!"file {name} line {line}: {mistake.text}"
      | none => mistake.text

/-- A text that has no end yet. -/
structure Unfinished where
  /-- The place of its command. -/
  place : Nat
  /-- The letter of the command. -/
  letter : Char
  /-- What there is of the text; none if it has not started. -/
  start : Option (List Char)
  deriving Repr, DecidableEq

/-- What has been read of a script. -/
structure Draft where
  /-- The commands. -/
  commands : Array Command := #[]
  /-- The blocks without an end: the place of the command, the part, and the line. -/
  blocks : List (Nat × Origin × Nat) := []
  /-- The labels and their places. -/
  labels : List (Octets × Nat) := []
  /-- A text that goes on in the next part. -/
  pending : Option Unfinished := none
  /-- Whether lines are printed only if a command says so. -/
  isQuiet : Bool := false

/-- How a part of a script is read. -/
structure Manner where
  /-- The part. -/
  origin : Origin
  /-- Whether it is the first part. -/
  isFirst : Bool
  /-- Whether operators of regular expressions have no backslash. -/
  extended : Bool
  /-- Whether commands that use other files or programs are refused. -/
  confined : Bool

/-- How far a part of a script has been read. -/
structure Reading where
  /-- The characters that are left. -/
  rest : List Char
  /-- The number of characters that have been read. -/
  used : Nat := 0
  /-- The number of the line. -/
  line : Nat := 1
  /-- What has been read. -/
  draft : Draft

/-- What reads a part of a script. -/
abbrev Reader (α : Type) :=
  StateT Reading (Except Mistake) α

namespace Reader

/-- Refuse a script. -/
def refuse (text : Octets) : Reader α := do
  let reading ← get
  throw { text, place := some (reading.used, reading.line) }

/-- Read on up to some characters, which are the last ones. -/
def goTo (rest : List Char) : Reader Unit :=
  modify fun reading =>
    let count := reading.rest.length - rest.length
    { reading with
      rest, used := reading.used + count
      line := reading.line + (reading.rest.take count).count '\n' }

/-- The next character. -/
def take : Reader (Option Char) := do
  match (← get).rest with
  | [] => pure none
  | c :: rest => do
      goTo rest
      pure (some c)

/-- Give back a character. -/
def putBack : Option Char -> Reader Unit
  | none => pure ()
  | some c =>
      modify fun reading =>
        { reading with
          rest := c :: reading.rest, used := reading.used - 1
          line := if c == '\n' then reading.line - 1 else reading.line }

/-- The next characters that are accepted. -/
def takeWhile (accepts : Char -> Bool) : Reader (List Char) := do
  let chars := (← get).rest
  let found := chars.takeWhile accepts
  goTo (chars.drop found.length)
  pure found

/-- Whether a character is blank. -/
def isBlank (c : Char) : Bool :=
  c == ' ' || c == '\t'

/-- Whether a character is a space, or ends a line. -/
def isSpace (c : Char) : Bool :=
  CharClass.holds "space" c

/-- The next character that is not blank. -/
def takeFull : Reader (Option Char) := do
  let _ ← takeWhile isBlank
  take

/-- The number whose first digit has been read; without a digit it is zero. -/
def number (first : Option Char) : Reader Nat := do
  putBack first
  let digits ← takeWhile Char.isDigit
  pure ((natural? (String.ofList digits)).getD 0)

/-- What a character after a backslash gives in a text that ends with a delimiter. -/
def escaped
    (delimiter : Char)
    (inPattern : Bool)
    (c : Char) : List Char :=
  if c == 'n' && inPattern then ['\n']
  else if c == '\n' || (c == delimiter && (inPattern || c != '&')) then [c]
  else ['\\', c]

/-- Where a character of a pattern stands. -/
inductive Within
  /-- Outside of a set. -/
  | text
  /-- After a backslash. -/
  | escape
  /-- After the start of a set. -/
  | start
  /-- After the start of a set and the mark that inverts it. -/
  | first
  /-- In a set. -/
  | set
  /-- After an opening bracket in a set. -/
  | bracket
  /-- In a name between two signs. -/
  | name (sign : Char)
  /-- After a sign that may end a name. -/
  | sign (sign : Char)
  deriving Repr, DecidableEq

/-- Where the character after a character of a set stands. -/
def Within.after (within : Within) (c : Char) : Within :=
  match within with
  | .name mark => if c == mark then .sign mark else .name mark
  | .sign mark => if c == ']' then .set else if c == mark then .sign mark else .name mark
  | _ =>
      if within == .start && c == '^' then .first
      else if within == .bracket && [':', '.', '='].contains c then .name c
      else if c == '[' then .bracket
      else if c == ']' && within != .start && within != .first then .text
      else .set

/-- The characters up to a delimiter, if there is one, and the characters after it. -/
def upTo
    (delimiter : Char)
    (inPattern : Bool) :
    Within -> List Char -> Option (List Char) × List Char
  | _, [] => (none, [])
  | .escape, c :: rest =>
      let (found, after) := upTo delimiter inPattern .text rest
      (found.map (escaped delimiter inPattern c ++ ·), after)
  | within, c :: rest =>
      if c == '\n' then (none, c :: rest)
      else if within == .text && c == delimiter then (some [], rest)
      else if within == .text && c == '\\' then upTo delimiter inPattern .escape rest
      else
        let next : Within :=
          if within != .text then within.after c
          else if inPattern && c == '[' then .start
          else .text
        let (found, after) := upTo delimiter inPattern next rest
        (found.map (c :: ·), after)

/-- The characters up to a delimiter; without a delimiter there is a complaint. -/
def delimited
    (delimiter : Option Char)
    (inPattern : Bool)
    (complaint : Octets) : Reader (List Char) := do
  let (found, rest) := upTo (delimiter.getD '\n') inPattern .text (← get).rest
  goTo rest
  match found with
  | some text => pure text
  | none => refuse complaint

/-- The pattern that is written, if there is one; so many groups are needed. -/
def pattern
    (manner : Manner)
    (written : List Char)
    (foldsCase hasLines : Bool)
    (groups : Nat) : Reader (Option Pattern) := do
  let text := patternText written
  if text.isEmpty then
    if foldsCase || hasLines then refuse "cannot specify modifiers on empty regexp"
    else pure none
  else if Regex.isLooseClass text then throw { text := Regex.looseClassText, status := 4 }
  else
    let dialect : Regex.Dialect :=
      if manner.extended then { extended := true, stray := .refused } else { refusesCounts := true }
    match Regex.read dialect (String.ofList text) with
    | .error mistake => refuse mistake.text
    | .ok regex =>
        if regex.groupCount < groups then
          refuse s!"invalid reference \\{groups} on \x60s' command's RHS"
        else pure (some { regex, foldsCase, hasLines })

/-- The letters after the pattern of an address: whether case does not count, and lines do. -/
def addressFlags : Nat -> Bool -> Bool -> Reader (Bool × Bool)
  | 0, foldsCase, hasLines => pure (foldsCase, hasLines)
  | fuel + 1, foldsCase, hasLines => do
      match ← takeFull with
      | some 'I' => addressFlags fuel true hasLines
      | some 'M' => addressFlags fuel foldsCase true
      | other => do
          putBack other
          pure (foldsCase, hasLines)

/-- The address that starts with a character, if one does. -/
def address (manner : Manner) (first : Option Char) : Reader (Option RangeEnd) := do
  match first with
  | some '/' | some '\\' => do
      let delimiter ← if first == some '/' then pure first else take
      let written ← delimited delimiter true "unterminated address regex"
      let (foldsCase, hasLines) ← addressFlags ((← get).rest.length + 1) false false
      let found ← pattern manner written foldsCase hasLines 0
      pure (some (.address (.finding found)))
  | some '$' => pure (some (.address .last))
  | some '+' => do
      let count ← number (← takeFull)
      pure (some (.after count))
  | some '~' => do
      let factor ← number (← takeFull)
      pure (some (.multiple factor))
  | some c =>
      if !c.isDigit then pure none
      else do
        let line ← number first
        match ← takeFull with
        | some '~' => do
            let step ← number (← takeFull)
            pure (some (.address (if step = 0 then .line line else .step line step)))
        | other => do
            putBack other
            pure (some (.address (.line line)))
  | none => pure none

/-- Read on after a mark that inverts a selection, if there is one. -/
def inversion
    (selection : Selection)
    (mark : Option Char) : Reader (Selection × Option Char) := do
  if mark != some '!' then pure (selection, mark)
  else
    match ← takeFull with
    | some '!' => refuse "multiple \x60!'s"
    | c => pure ({ selection with inverted := true }, c)

/-- Which lines a command is for that starts with a character, and the character after that. -/
def selection
    (manner : Manner)
    (first : Option Char) : Reader (Selection × Option Char) := do
  match ← address manner first with
  | none => inversion {} first
  | some (.address start) => do
      let (last, c) ← do
        match ← takeFull with
        | some ',' => do
            match ← address manner (← takeFull) with
            | none => refuse "unexpected \x60,'"
            | some last => pure (some last, ← takeFull)
        | c => pure (none, c)
      match start, last with
      | .line 0, some (.address (.finding _)) => inversion { first := some start, last } c
      | .line 0, _ => refuse "invalid usage of line address 0"
      | _, _ => inversion { first := some start, last } c
  | some _ => refuse "invalid usage of +N or ~N as first address"

/-- Read to the end of a command. -/
def finish : Reader Unit := do
  match ← takeFull with
  | none | some '\n' | some ';' => pure ()
  | some c =>
      if c == '\x7d' || c == '#' then putBack (some c) else refuse "extra characters after command"

/-- The name of a file, which goes on to the end of the line. -/
def path : Reader Octets := do
  let _ ← takeWhile isBlank
  let name ← takeWhile (· != '\n')
  let _ ← take
  if name.isEmpty then refuse "missing filename in r/R/w/W commands"
  else pure (String.ofList name)

/-- A label. -/
def label : Reader Octets := do
  let _ ← takeWhile isBlank
  let name ← takeWhile fun c => !isSpace c && !(['#', ';', '\x7d'].contains c)
  pure (String.ofList name)

/-- The characters of a text up to its end, whether it has an end, and the characters after it. -/
def textEnd : List Char -> List Char × Bool × List Char
  | [] => ([], true, [])
  | ['\\'] => ([], false, [])
  | '\n' :: rest => ([], true, rest)
  | '\\' :: c :: rest =>
      let (text, hasEnd, after) := textEnd rest
      ('\\' :: c :: text, hasEnd, after)
  | c :: rest =>
      let (text, hasEnd, after) := textEnd rest
      (c :: text, hasEnd, after)

/-- The command of a letter that inserts a text. -/
def textVerb (letter : Char) (text : Octets) : Verb :=
  match letter with
  | 'a' => .append text
  | 'i' => .insert text
  | _ => .change text

/-- Read a text that may have a start, and give it to its command. -/
def readText (unfinished : Unfinished) : Reader Unit := do
  let (found, hasEnd, rest) := textEnd (← get).rest
  goTo rest
  let start :=
    match unfinished.start with
    | some start => start ++ ['\\', '\n']
    | none => []
  let found := start ++ found
  let text := String.ofList (plainText found) ++ "\n"
  modify fun reading =>
    let commands := reading.draft.commands.modify unfinished.place fun command =>
      { command with verb := textVerb unfinished.letter text }
    let pending := if hasEnd then none else some { unfinished with start := some found }
    { reading with draft := { reading.draft with commands, pending } }

/-- The letters after a substitution. -/
structure Flags where
  /-- The substitution without what is sought. -/
  substitution : Substitution
  /-- Whether letters are the same in both cases. -/
  foldsCase : Bool := false
  /-- Whether lines start and end inside of the text. -/
  hasLines : Bool := false
  /-- The number, if there is one. -/
  number : Option Nat := none

/-- Read the letters after a substitution; the number bounds them. -/
def flags (manner : Manner) : Nat -> Flags -> Reader Flags
  | 0, found => pure found
  | fuel + 1, found => do
      let old := found.substitution
      let goOn (substitution : Substitution) : Reader Flags :=
        flags manner fuel { found with substitution }
      match ← take with
      | none | some '\n' | some ';' => pure found
      | some 'i' | some 'I' => flags manner fuel { found with foldsCase := true }
      | some 'm' | some 'M' => flags manner fuel { found with hasLines := true }
      | some 'e' =>
          if manner.confined then refuse "e/r/w commands disabled in sandbox mode"
          else goOn { old with runs := true }
      | some 'p' =>
          if old.prints || old.printsBefore then
            refuse "multiple \x60p' options to \x60s' command"
          else goOn { old with printsBefore := !old.runs, prints := old.runs }
      | some 'g' =>
          if old.everywhere then refuse "multiple \x60g' options to \x60s' command"
          else goOn { old with everywhere := true }
      | some 'w' => do
          let target ← path
          pure { found with substitution := { old with target := some target } }
      | some c =>
          if isBlank c then flags manner fuel found
          else if c == '\x7d' || c == '#' then do
            putBack (some c)
            pure found
          else if c.isDigit then
            if found.number.isSome then refuse "multiple number options to \x60s' command"
            else do
              let n ← number (some c)
              if n = 0 then refuse "number option to \x60s' command may not be zero"
              else flags manner fuel { found with number := some n }
          else refuse "unknown option to \x60s'"

/-- The substitution after its letter. -/
def substitution (manner : Manner) : Reader Verb := do
  let complaint := "unterminated \x60s' command"
  let delimiter ← take
  let written ← delimited delimiter true complaint
  let replacement ← delimited delimiter false complaint
  let pieces := pieces replacement
  let groups := (pieces.filterMap (·.group)).foldl max 0
  let found ← flags manner ((← get).rest.length + 1) { substitution := { pattern := none, pieces } }
  let sought ← pattern manner written found.foldsCase found.hasLines groups
  let old := found.substitution
  pure (.substitute
    { old with
      pattern := sought, number := found.number.getD 1
      prints := old.prints || (old.printsBefore && !old.runs)
      printsBefore := old.printsBefore && old.runs })

/-- The translation after its letter. -/
def translation : Reader Verb := do
  let complaint := "unterminated \x60y' command"
  let delimiter ← take
  let sources := plainText (← delimited delimiter false complaint)
  let targets := plainText (← delimited delimiter false complaint)
  if sources.length != targets.length then
    refuse "strings for \x60y' command are different lengths"
  else do
    finish
    pure (.translate (sources.zip targets).reverse)

/-- The number after a letter, if there is one, to the end of the command. -/
def optionalNumber : Reader (Option Nat) := do
  let c ← takeFull
  if c.any Char.isDigit then do
    let n ← number c
    finish
    pure (some n)
  else do
    putBack c
    finish
    pure none

/-- The commands that are just a letter. -/
def plainVerbs : List (Char × Verb) :=
  [('=', .lineNumber), ('d', .delete), ('D', .deleteLine), ('F', .fileName), ('g', .get),
    ('G', .getMore), ('h', .keep), ('H', .keepMore), ('n', .next), ('N', .nextMore),
    ('p', .print), ('P', .printLine), ('x', .exchange), ('z', .clear)]

/-- Whether a version is one whose scripts can be read. -/
def isOldVersion (text : Octets) : Bool :=
  match (text.splitOn ".").map natural? with
  | [some major] => major ≤ 4
  | some major :: some minor :: rest =>
      major < 4 || (major = 4 && (minor < 9 || (minor = 9 && rest.isEmpty)))
  | _ => text < "4"

/-- Add a command. -/
def add (selection : Selection) (verb : Verb) : Reader Unit :=
  modify fun reading =>
    { reading with
      draft := { reading.draft with commands := reading.draft.commands.push { selection, verb } } }

/-- Read a comment; at the very start it may say that lines are not printed. -/
def comment (manner : Manner) : Reader Unit := do
  let isStart := manner.isFirst && (← get).used == 1
  let text ← takeWhile (· != '\n')
  if isStart && text == ['n'] then
    modify fun reading => { reading with draft := { reading.draft with isQuiet := true } }

/-- End a block. -/
def closeBlock (selection : Selection) : Reader Unit := do
  match (← get).draft.blocks with
  | [] => refuse "unexpected \x60\x7d'"
  | (start, _) :: blocks =>
      if selection.first.isSome then refuse "\x7d' doesn't want any addresses"
      else do
        finish
        modify fun reading =>
          let commands := reading.draft.commands
          let commands := commands.modify start fun command =>
            { command with verb := .block commands.size }
          { reading with draft := { reading.draft with commands, blocks } }

/-- Start a block. -/
def openBlock (manner : Manner) (selection : Selection) : Reader Unit := do
  modify fun reading =>
    let block := (reading.draft.commands.size, manner.origin, reading.line)
    { reading with draft := { reading.draft with blocks := block :: reading.draft.blocks } }
  add selection (.block 0)

/-- Read a label. -/
def newLabel (selection : Selection) : Reader Unit := do
  if selection.first.isSome then refuse ": doesn't want any addresses"
  else do
    let name ← label
    if name.isEmpty then refuse "\":\" lacks a label"
    else
      modify fun reading =>
        let labels := (name, reading.draft.commands.size) :: reading.draft.labels
        { reading with draft := { reading.draft with labels } }

/-- Read a command that inserts a text. -/
def insertion (selection : Selection) (letter : Char) : Reader Unit := do
  let unfinished : Unfinished :=
    { place := (← get).draft.commands.size, letter, start := none }
  add selection (textVerb letter "")
  match ← takeFull with
  | none => refuse "expected \\ after \x60a', \x60c' or \x60i'"
  | some '\\' =>
      match ← take with
      | none =>
          modify fun reading =>
            { reading with draft := { reading.draft with pending := some unfinished } }
      | some '\n' => readText unfinished
      | other => do
          putBack other
          readText unfinished
  | other => do
      putBack other
      readText unfinished

/-- Refuse a command that has two addresses. -/
def needsOneAddress (selection : Selection) : Reader Unit := do
  if selection.last.isSome then refuse "command only uses one address"

/-- Read a command after its letter. -/
def commandOf (manner : Manner) (selection : Selection) (letter : Char) : Reader Unit := do
  if manner.confined && ['e', 'r', 'w', 'W', 'R'].contains letter then
    refuse "e/r/w commands disabled in sandbox mode"
  match letter, plainVerbs.lookup letter with
  | _, some verb => do
      finish
      add selection verb
  | '#', _ =>
      if selection.first.isSome then refuse "comments don't accept any addresses"
      else comment manner
  | ':', _ => newLabel selection
  | '\x7b', _ => openBlock manner selection
  | '\x7d', _ => closeBlock selection
  | 'a', _ | 'i', _ | 'c', _ => insertion selection letter
  | 'b', _ => do add selection (.jump .always (← label))
  | 't', _ => do add selection (.jump .ifReplaced (← label))
  | 'T', _ => do add selection (.jump .unlessReplaced (← label))
  | 'e', _ => do
      let _ ← takeWhile isBlank
      let command ← takeWhile (· != '\n')
      let _ ← take
      add selection (.run (String.ofList command))
  | 'l', _ => do add selection (.list (← optionalNumber))
  | 'q', _ => do
      needsOneAddress selection
      add selection (.quit ((← optionalNumber).getD 0))
  | 'Q', _ => do
      needsOneAddress selection
      add selection (.leave ((← optionalNumber).getD 0))
  | 'L', _ => throw { text := "INTERNAL ERROR: Bad cmd L", status := 4 }
  | 'r', _ => do add selection (.readFile (← path))
  | 'R', _ => do add selection (.readLine (← path))
  | 'w', _ => do add selection (.writeFile (← path))
  | 'W', _ => do add selection (.writeLine (← path))
  | 's', _ => do add selection (← substitution manner)
  | 'y', _ => do add selection (← translation)
  | 'v', _ => do
      let version ← label
      if !isOldVersion version then refuse "expected newer version of sed"
  | _, _ => refuse s!"unknown command: \x60{letter}'"

/-- Read the commands of a part; the number bounds them. -/
def commands (manner : Manner) : Nat -> Reader Unit
  | 0 => pure ()
  | fuel + 1 => do
      let _ ← takeWhile fun c => isSpace c || c == ';'
      match ← take with
      | none => pure ()
      | first => do
          let (selection, letter) ← selection manner first
          match letter with
          | none => refuse "missing command"
          | some letter => do
              commandOf manner selection letter
              commands manner fuel

/-- Read a part, which may start with the rest of a text. -/
def part (manner : Manner) : Reader Unit := do
  let reading ← get
  match reading.draft.pending with
  | none => pure ()
  | some unfinished => readText unfinished
  commands manner (reading.rest.length + 1)

end Reader

/-- A script. -/
structure Script where
  /-- The commands. -/
  commands : Array Command
  /-- The labels and their places. -/
  labels : List (Octets × Nat) := []
  /-- Whether lines are printed only if a command says so. -/
  isQuiet : Bool := false

namespace Script

/-- The place at which a command goes on; without a label that is the end. -/
def placeOf (script : Script) (label : Octets) : Nat :=
  (script.labels.lookup label).getD script.commands.size

end Script

/-- Go on with a part of a script, or say how the program complains and its status. -/
def Draft.add
    (draft : Draft)
    (manner : Manner)
    (text : Octets) : Except (Octets × Nat) Draft :=
  match (Reader.part manner).run { rest := text.toList, draft } with
  | .ok (_, reading) => .ok reading.draft
  | .error mistake => .error (mistake.complaint manner.origin, mistake.status)

/-- The label that a command names and that is missing. -/
def Draft.missingLabel? (draft : Draft) (command : Command) : Option Octets :=
  match command.verb with
  | .jump _ label =>
      if label.isEmpty || (draft.labels.lookup label).isSome then none else some label
  | _ => none

/-- The script when it has been read, or how the program complains and its status. -/
def Draft.script (draft : Draft) : Except (Octets × Nat) Script :=
  match draft.blocks, draft.commands.toList.reverse.findSome? draft.missingLabel? with
  | (_, origin, line) :: _, _ =>
      let mistake : Mistake := { text := "unmatched \x60\x7b'", place := some (0, line) }
      .error (mistake.complaint origin, mistake.status)
  | [], some label => .error (s!"can't find label for jump to \x60{label}'", 4)
  | [], none =>
      .ok { commands := draft.commands, labels := draft.labels, isQuiet := draft.isQuiet }

end Editing
end Programs
end CameraFleet
