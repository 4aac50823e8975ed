import CameraFleet.Programs.Copy
import CameraFleet.Programs.EditScript
import CameraFleet.Programs.Print
import CameraFleet.Programs.Search
import CameraFleet.Programs.Source

/-!
# Editing lines

Lines are read one after another, and a script says what is done with each. What
a command prints for the end of the cycle waits until the next line is read. A
last line without an end keeps that, unless something is printed after it.
-/

namespace CameraFleet
namespace Programs
namespace Editing

open Host

/-! ## The state -/

/-- Where output goes. -/
inductive Target
  /-- To the usual output. -/
  | output
  /-- To the output for complaints. -/
  | complaints
  /-- To the file that takes the place of the one that is read. -/
  | edited
  /-- To an open file. -/
  | file (descriptor : Nat)
  deriving Repr, DecidableEq

/-- Something to which lines are written. -/
structure Sink where
  /-- Where the output goes. -/
  target : Target
  /-- Whether the last line has no end. -/
  lacksEnd : Bool := false
  deriving Repr, DecidableEq

/-- What is printed when the cycle ends. -/
inductive Later
  /-- A text. -/
  | text (text : Octets)
  /-- A file. -/
  | file (path : Octets)
  deriving Repr, DecidableEq

/-- Where the range of a command is. -/
inductive RangeState
  /-- It has not started. -/
  | before
  /-- It has started; it may end at a line. -/
  | inside (last : Option Nat)
  /-- It has ended. -/
  | after
  deriving Repr, DecidableEq

/-- How a program edits. -/
structure Setting where
  /-- Its name. -/
  name : Octets
  /-- What starts programs. -/
  starter : Starter
  /-- The environment. -/
  environment : List (Octets × Octets)
  /-- The script. -/
  script : Script
  /-- The number of the parts of the script that are arguments. -/
  partCount : Nat := 0
  /-- Whether lines are printed only if a command says so. -/
  isQuiet : Bool := false
  /-- Whether each file has lines of its own. -/
  separate : Bool := false
  /-- Whether files are replaced by what is printed; the text says how the old ones are named. -/
  inPlace : Option Octets := none
  /-- Whether nothing is read or written in advance. -/
  unbuffered : Bool := false
  /-- The byte that ends a line. -/
  lineEnd : UInt8 := 10
  /-- The width of lines that are listed. -/
  width : Nat := 70

/-- What is known while lines are edited. -/
structure State where
  /-- The line. -/
  line : Line := {}
  /-- The line that was kept. -/
  kept : Line := {}
  /-- The number of the line. -/
  number : Nat := 0
  /-- The files that have not been opened. -/
  files : List Octets
  /-- The file that is read. -/
  source : Option Source := none
  /-- The name of that file. -/
  fileName : Octets := "-"
  /-- What is printed when the cycle ends. -/
  later : List Later := []
  /-- Where the ranges of the commands are. -/
  ranges : Array RangeState
  /-- Whether something was replaced in this line. -/
  replaced : Bool := false
  /-- The pattern that was sought before. -/
  latest : Option Pattern := none
  /-- Where lines are printed. -/
  main : Sink := { target := .output }
  /-- Where lines are written, by names of files. -/
  sinks : List (Octets × Sink) := []
  /-- The files that are read line by line, by their names. -/
  sources : List (Octets × Source) := []
  /-- What has not been written to the usual output. -/
  pending : ByteArray := .empty
  /-- What takes the place of the file that is read. -/
  edited : ByteArray := .empty
  /-- Whether a file could not be read. -/
  failed : Bool := false

/-- What edits lines; it may end with a status. -/
abbrev Editor (α : Type) :=
  ExceptT Nat (StateT State Act) α

/-- Whether the range of a command starts before the first line. -/
def startsEarly (command : Command) : Bool :=
  match command.selection.first with
  | some (.line 0) => true
  | _ => false

/-- Where the ranges of commands are before the first line. -/
def firstRanges (script : Script) : Array RangeState :=
  script.commands.map fun command => if startsEarly command then .inside none else .before

namespace Editor

/-! ## Output -/

/-- Write what has not been written to the usual output. -/
def flush (setting : Setting) : Editor Unit := do
  let state ← get
  set { state with pending := .empty }
  if !state.pending.isEmpty then
    match ← Act.call (.write 1 state.pending) with
    | .ok () => pure ()
    | .error fault => do
        warn setting.name s!"couldn't flush stdout: {fault.text}"
        throw 4

/-- Give up because of something. -/
def giveUp
    (setting : Setting)
    (text : Octets)
    (status : Nat) : Editor α := do
  flush setting
  warn setting.name text
  throw status

/-- Write bytes. -/
def writeBytes
    (setting : Setting)
    (target : Target)
    (bytes : ByteArray) : Editor Unit := do
  match target with
  | .output => do
      modify fun state => { state with pending := state.pending ++ bytes }
      if setting.unbuffered || bufferSize ≤ (← get).pending.size then flush setting
  | .complaints => do
      let _ ← Act.call (.write 2 bytes)
  | .edited => modify fun state => { state with edited := state.edited ++ bytes }
  | .file descriptor => do
      let _ ← Act.call (.write descriptor bytes)

/-- Write a text after the line before it has got its end. -/
def writeText
    (setting : Setting)
    (sink : Sink)
    (text : Octets) : Editor Unit := do
  let gap : ByteArray := if sink.lacksEnd then ⟨#[setting.lineEnd]⟩ else .empty
  writeBytes setting sink.target (gap ++ Octets.toBytes text)

/-- Print a text. -/
def printText (setting : Setting) (text : Octets) : Editor Unit := do
  let sink := (← get).main
  writeText setting sink text
  modify fun state => { state with main := { sink with lacksEnd := false } }

/-- The character that ends a line. -/
def lineBreak (setting : Setting) : Octets :=
  String.singleton (Char.ofNat setting.lineEnd.toNat)

/-- A line with its end, if it has one. -/
def endedText (setting : Setting) (line : Line) : Octets :=
  if line.ended then line.text ++ lineBreak setting else line.text

/-- Print a line. -/
def printLine (setting : Setting) (line : Line) : Editor Unit := do
  printText setting (endedText setting line)
  modify fun state => { state with main := { state.main with lacksEnd := !line.ended } }

/-- Write a line to the file of a name. -/
def writeTo
    (setting : Setting)
    (path : Octets)
    (line : Line) : Editor Unit := do
  match (← get).sinks.lookup path with
  | none => pure ()
  | some sink => do
      writeText setting sink (endedText setting line)
      let after : Sink := { sink with lacksEnd := !line.ended }
      modify fun state =>
        { state with
          sinks := state.sinks.map fun (name, old) => (name, if name == path then after else old) }

/-- Print what waits for the end of the cycle. -/
def printLater (setting : Setting) : Editor Unit := do
  let later := (← get).later
  modify fun state => { state with later := [] }
  for item in later do
    match item with
    | .text text => printText setting text
    | .file path =>
        match ← Act.call (.open path .reading) with
        | .error _ => pure ()
        | .ok descriptor => do
            let found ← readAll descriptor
            closeInput descriptor
            match found with
            | .error _ => pure ()
            | .ok bytes => printText setting (Octets.ofBytes bytes)

/-- Let something be printed at the end of the cycle. -/
def addLater (item : Later) : Editor Unit :=
  modify fun state => { state with later := state.later ++ [item] }

/-! ## Input -/

/-- The most bytes that are read at once. -/
def mostBytes (setting : Setting) : Nat :=
  if setting.unbuffered then 1 else bufferSize

/-- The path at which the old file of a path is kept. -/
def oldPath (suffix path : Octets) : Octets :=
  let name := lastName path
  let named :=
    if suffix.contains '*' then suffix.replace "*" name else name ++ suffix
  if named.contains '/' || !path.contains '/' then named else directoryName path ++ "/" ++ named

/-- Replace a file by what was printed. -/
def replaceFile (setting : Setting) (suffix path : Octets) : Editor Unit := do
  let state ← get
  set { state with edited := .empty, main := { state.main with lacksEnd := false } }
  let rights ← do
    match ← Act.call (.look path true) with
    | .ok sight => pure sight.rights
    | .error _ => pure 420
  if !suffix.isEmpty then
    match ← Act.call (.change (.move path (oldPath suffix path))) with
    | .ok () => pure ()
    | .error fault => giveUp setting s!"cannot rename {path}: {fault.text}" 4
  else
    let _ ← Act.call (.change (.remove path))
  match ← Act.call (.open path .writing) with
  | .error fault => giveUp setting s!"couldn't open file {path}: {fault.text}" 4
  | .ok descriptor => do
      let _ ← Act.call (.write descriptor state.edited)
      let _ ← Act.call (.close descriptor)
      let _ ← Act.call (.change (.setRights path rights))

/-- Close the file that is read. -/
def closeSource (setting : Setting) : Editor Unit := do
  let state ← get
  match state.source with
  | none => pure ()
  | some source => do
      if source.descriptor = 0 then
        Act.call (.goBack 0 (source.bytes.size - source.place))
      else closeInput source.descriptor
      set { state with source := none }
      match setting.inPlace with
      | some suffix => replaceFile setting suffix state.fileName
      | none => pure ()

/-- Refuse to replace what is no file. -/
def checkEditable (setting : Setting) (path : Octets) : Editor Unit := do
  match ← Act.call (.look path true) with
  | .ok { kind := .entry .file, .. } | .error _ => pure ()
  | .ok _ => giveUp setting s!"couldn't edit {path}: not a regular file" 4

/-- Open a file. -/
def openSource (setting : Setting) (path : Octets) : Editor Unit := do
  if setting.inPlace.isSome then checkEditable setting path
  match ← openInput path with
  | .error fault => do
      warn setting.name s!"can't read {path}: {fault.text}"
      modify fun state => { state with failed := true }
  | .ok descriptor => do
      modify fun state => { state with source := some { descriptor }, fileName := path }
      if setting.separate then
        modify fun state =>
          { state with number := 0, kept := {}, ranges := firstRanges setting.script }
        if setting.inPlace.isSome then
          modify fun state => { state with main := { target := .edited } }

/-- Use what came out of reading, or give up. -/
def orGiveUp (setting : Setting) (read : Except Fault α) : Editor α := do
  match read with
  | .ok value => pure value
  | .error fault => do
      let path := (← get).fileName
      let title := if path == "-" then "stdin" else path
      giveUp setting s!"read error on {title}: {fault.text}" 4

/-- Open the next file, if there is one. -/
def openNext (setting : Setting) : Editor Bool := do
  match (← get).files with
  | [] => pure false
  | path :: files => do
      modify fun state => { state with files }
      openSource setting path
      pure true

/-- Whether there are no more lines; the number bounds the files. -/
def isLast (setting : Setting) : Nat -> Editor Bool
  | 0 => pure true
  | turns + 1 => do
      match (← get).source with
      | some source => do
          let source ← orGiveUp setting (← source.ready (mostBytes setting))
          modify fun state => { state with source := some source }
          if source.hasBytes then pure false
          else if setting.separate then pure true
          else do
            closeSource setting
            isLast setting turns
      | none => do
          if ← openNext setting then isLast setting turns else pure true

/-- The next line, if there is one; the number bounds the files. -/
def nextLine (setting : Setting) : Nat -> Editor (Option Line)
  | 0 => pure none
  | turns + 1 => do
      match (← get).source with
      | none => do
          if ← openNext setting then nextLine setting turns else pure none
      | some source => do
          let read ← source.line (mostBytes setting) setting.lineEnd manyTurns
          let (line, source) ← orGiveUp setting read
          modify fun state => { state with source := some source }
          match line with
          | some line => pure (some line)
          | none => do
              closeSource setting
              nextLine setting turns

/-- Read the next line and say how it is put together with the old one; whether there is one. -/
def readLine
    (setting : Setting)
    (join : Line -> Line -> Line) : Editor Bool := do
  printLater setting
  match ← nextLine setting manyTurns with
  | none => pure false
  | some line => do
      modify fun state =>
        { state with
          line := join state.line line, number := state.number + 1, replaced := false }
      pure true

/-! ## Addresses -/

/-- The pattern that is meant, or the one that was sought before. -/
def patternOf (setting : Setting) (pattern : Option Pattern) : Editor Pattern := do
  let latest := (← get).latest
  match if pattern.isSome then pattern else latest with
  | some pattern => do
      modify fun state => { state with latest := some pattern }
      pure pattern
  | none => do
      let place := s!"-e expression #{setting.partCount}, char 0"
      giveUp setting s!"{place}: no previous regular expression" 1

/-- The text in which a pattern is sought. -/
def subjectOf
    (setting : Setting)
    (pattern : Pattern)
    (text : Octets) : Regex.Subject :=
  { chars := text.toList.toArray, foldsCase := pattern.foldsCase
    hasLines := pattern.hasLines && setting.lineEnd == 10 }

/-- Whether a line has an address. -/
def hasAddress (setting : Setting) : Address -> Editor Bool
  | .line number => do pure ((← get).number == number)
  | .step first step => do
      let number := (← get).number
      pure (first ≤ number && (number - first) % step == 0)
  | .last => isLast setting manyTurns
  | .finding pattern => do
      let pattern ← patternOf setting pattern
      let subject := subjectOf setting pattern (← get).line.text
      pure (pattern.regex.search? subject 0).isSome

/-- Note where the range of a command is. -/
def setRange (place : Nat) (range : RangeState) : Editor Unit :=
  modify fun state => { state with ranges := state.ranges.setIfInBounds place range }

/-- Whether a line is in a range that has started; the second number is that of its last line. -/
def goesOn
    (setting : Setting)
    (place : Nat)
    (last : RangeEnd) : Option Nat -> Editor Bool
  | some stop => do
      if stop ≤ (← get).number then setRange place .after
      pure true
  | none =>
      match last with
      | .address (.line stop) => do
          let number := (← get).number
          if stop ≤ number then setRange place .after
          pure (number ≤ stop)
      | .address address => do
          if ← hasAddress setting address then setRange place .after
          pure true
      | _ => do
          setRange place .after
          pure true

/-- Whether a range starts at a line at which it may start. -/
def starts
    (place : Nat)
    (isFirst : Bool)
    (last : RangeEnd) : Editor Bool := do
  let number := (← get).number
  match last with
  | .address (.line stop) =>
      if number < stop then do
        setRange place (.inside none)
        pure true
      else do
        setRange place .after
        pure (isFirst || number == stop)
  | .address _ => do
      setRange place (.inside none)
      pure true
  | .after count => do
      setRange place (if count = 0 then .after else .inside (some (number + count)))
      pure true
  | .multiple factor => do
      let stop := number + factor - number % factor
      setRange place (if factor = 0 then .after else .inside (some stop))
      pure true

/-- Whether the addresses of a command select the line. -/
def isInRange
    (setting : Setting)
    (place : Nat)
    (selection : Selection) : Editor Bool := do
  match selection.first, selection.last with
  | none, _ => pure true
  | some first, none => hasAddress setting first
  | some first, some last => do
      match (← get).ranges.getD place .before, first with
      | .inside stop, _ => goesOn setting place last stop
      | .after, .line _ => pure false
      | _, .line start => do
          let number := (← get).number
          if number < start then pure false else starts place (number == start) last
      | _, _ => do
          if ← hasAddress setting first then starts place true last else pure false

/-- Whether a command is for the line. -/
def isSelected
    (setting : Setting)
    (place : Nat)
    (selection : Selection) : Editor Bool := do
  pure ((← isInRange setting place selection) != selection.inverted)

end Editor

/-! ## What commands do with texts -/

/-- The text with matches replaced that start at a place or later, if there are any. -/
def Substitution.replaceOn
    (substitution : Substitution)
    (regex : Regex)
    (subject : Regex.Subject) :
    Nat -> Nat -> Option Nat -> Nat -> Bool -> Octets -> Option Octets
  | 0, _, _, _, _, _ => none
  | fuel + 1, start, stopBefore, count, found, done =>
      let finish (place : Nat) (done : Octets) : Octets :=
        done ++ subject.between place subject.chars.size
      match if start ≤ subject.chars.size then regex.search? subject start else none with
      | none => if found then some (finish start done) else none
      | some hit =>
          let before := done ++ subject.between start hit.start
          let isEmpty := hit.start == hit.stop
          let next := if isEmpty then hit.stop + 1 else hit.stop
          let skipped := subject.between hit.stop next
          if isEmpty && stopBefore == some hit.start then
            substitution.replaceOn regex subject fuel next none count found (before ++ skipped)
          else if count + 1 < substitution.number then
            let kept := subject.between hit.start next
            substitution.replaceOn regex subject fuel next (some hit.stop) (count + 1) found
              (before ++ kept)
          else
            let groupText (number : Nat) : List Char :=
              if number = 0 then (subject.between hit.start hit.stop).toList
              else
                match hit.groups.lookup number with
                | some (start, stop) => (subject.between start stop).toList
                | none => []
            let text := before ++ String.ofList (textOfPieces groupText none substitution.pieces)
            if substitution.everywhere then
              substitution.replaceOn regex subject fuel next (some hit.stop) (count + 1) true
                (text ++ skipped)
            else some (finish hit.stop text)

/-- The text with matches replaced, if there are any. -/
def Substitution.replace?
    (substitution : Substitution)
    (regex : Regex)
    (subject : Regex.Subject) : Option Octets :=
  substitution.replaceOn regex subject (subject.chars.size + 2) 0 none 0 false ""

/-- A character in a form in which it can be seen. -/
def visible (c : Char) : List Char :=
  let letters :=
    [('\\', '\\'), ('\x07', 'a'), ('\x08', 'b'), ('\x0c', 'f'), ('\n', 'n'), ('\r', 'r'),
      ('\t', 't'), ('\x0b', 'v')]
  match letters.lookup c with
  | some letter => ['\\', letter]
  | none =>
      if ' ' ≤ c && c ≤ '~' then [c]
      else
        let digit (unit : Nat) : Char := Char.ofNat (48 + c.toNat / unit % 8)
        ['\\', digit 64, digit 8, digit 1]

/-- Characters in visible forms, broken into lines that are not longer than a width. -/
def wrapped (width : Nat) : Nat -> List (List Char) -> List Char
  | _, [] => []
  | column, form :: rest =>
      if width != 0 && width < column + form.length + 1 then
        '\\' :: '\n' :: form ++ wrapped width form.length rest
      else form ++ wrapped width (column + form.length) rest

/-- The first line of a text; a text that is just one line is that line. -/
def firstLine (lineEnd : Char) (line : Line) : Line :=
  if line.text.contains lineEnd then
    { text := String.ofList (line.text.toList.takeWhile (· != lineEnd)) }
  else line

/-- A text of a script with its last line ended as lines are. -/
def endedAs (lineBreak text : Octets) : Octets :=
  match text.toList.reverse with
  | '\n' :: rest => String.ofList rest.reverse ++ lineBreak
  | _ => text

/-- What is left of a text after its first line, if it has several. -/
def afterFirst? (lineEnd : Char) (text : Octets) : Option Octets :=
  match text.toList.dropWhile (· != lineEnd) with
  | [] => none
  | _ :: rest => some (String.ofList rest)

/-! ## Running the script -/

/-- What happens after a command. -/
inductive After
  /-- The command at a place follows. -/
  | goOn (place : Nat)
  /-- The cycle is over; the line is printed. -/
  | finished
  /-- The cycle is over; the line is not printed. -/
  | dropped
  /-- The script starts again with the same line. -/
  | again
  /-- All is over. -/
  | over (status : Nat)
  deriving Repr, DecidableEq

namespace Editor

/-- What a command of the shell prints. -/
def outputOf (setting : Setting) (command : Octets) : Editor Octets := do
  flush setting
  let (reading, writing) ← Act.call .pipe
  match ← Act.call .fork with
  | none => do
      let _ ← Act.call (.assign writing 1)
      let _ ← Act.call (.close writing)
      let _ ← Act.call (.close reading)
      let fault ← setting.starter "/bin/sh"
        { name := "sh", args := ["-c", command], environment := setting.environment }
      warn "sh" fault.text
      Act.exit 127
  | some child => do
      let _ ← Act.call (.close writing)
      let found ← readAll reading
      let _ ← Act.call (.close reading)
      let _ ← awaitChild child manyTurns
      match found with
      | .ok bytes => pure (Octets.ofBytes bytes)
      | .error _ => pure ""

/-- Let the output of the line, as a command of the shell, take its place. -/
def runLine (setting : Setting) : Editor Unit := do
  let found ← outputOf setting (← get).line.text
  let text :=
    match found.toList.reverse with
    | c :: rest =>
        if String.singleton c == lineBreak setting then String.ofList rest.reverse else found
    | [] => ""
  modify fun state => { state with line := { state.line with text } }

/-- Replace matches in the line. -/
def substitute (setting : Setting) (substitution : Substitution) : Editor Unit := do
  let pattern ← patternOf setting substitution.pattern
  let groups := (substitution.pieces.filterMap (·.group)).foldl max 0
  if pattern.regex.groupCount < groups then
    let place := s!"-e expression #{setting.partCount}, char 0"
    giveUp setting s!"{place}: invalid reference \\{groups} on \x60s' command's RHS" 1
  let state ← get
  let subject := subjectOf setting pattern state.line.text
  match substitution.replace? pattern.regex subject with
  | none => pure ()
  | some text => do
      set { state with line := { state.line with text }, replaced := true }
      if substitution.printsBefore then printLine setting (← get).line
      if substitution.runs then runLine setting
      if substitution.prints then printLine setting (← get).line
      match substitution.target with
      | some path => writeTo setting path (← get).line
      | none => pure ()

/-- Take the next line of a file for the end of the cycle. -/
def takeLine (setting : Setting) (path : Octets) : Editor Unit := do
  match (← get).sources.lookup path with
  | none => pure ()
  | some source => do
      match ← source.line (mostBytes setting) setting.lineEnd manyTurns with
      | .error _ => pure ()
      | .ok (line, after) => do
          modify fun state =>
            { state with
              sources := state.sources.map fun (name, old) =>
                (name, if name == path then after else old) }
          match line with
          | some line => addLater (.text (endedText setting line))
          | none => pure ()

/-- Change the line. -/
def change (how : State -> State) (after : After) : Editor After := do
  modify how
  pure after

/-- Put the text of a line after that of another one. -/
def joined (setting : Setting) (first second : Line) : Line :=
  { second with text := first.text ++ lineBreak setting ++ second.text }

/-- Do what a command says; the first number is its place. -/
def perform
    (setting : Setting)
    (place : Nat)
    (verb : Verb) : Editor After := do
  let state ← get
  let goOn : After := .goOn (place + 1)
  let also (act : Editor Unit) : Editor After := do
    act
    pure goOn
  let lineEnd := Char.ofNat setting.lineEnd.toNat
  match verb with
  | .block _ => pure goOn
  | .jump condition label =>
      let target : After := .goOn (setting.script.placeOf label)
      match condition, state.replaced with
      | .always, _ => pure target
      | .ifReplaced, true => change (fun state => { state with replaced := false }) target
      | .unlessReplaced, true => change (fun state => { state with replaced := false }) goOn
      | .ifReplaced, false => pure goOn
      | .unlessReplaced, false => pure target
  | .append text => also (addLater (.text text))
  | .insert text => also (printText setting (endedAs (lineBreak setting) text))
  | .change text => do
      match state.ranges.getD place .before with
      | .inside _ => pure ()
      | _ => printText setting (endedAs (lineBreak setting) text)
      pure .dropped
  | .delete => pure .dropped
  | .deleteLine =>
      match afterFirst? lineEnd state.line.text with
      | none => pure .dropped
      | some text =>
          change (fun state => { state with line := { state.line with text } }) .again
  | .run command =>
      if command.isEmpty then also (runLine setting)
      else
        also do
          let found ← outputOf setting command
          printText setting found
  | .fileName => also (printText setting (state.fileName ++ lineBreak setting))
  | .lineNumber => also (printText setting (toString state.number ++ lineBreak setting))
  | .get => change (fun state => { state with line := state.kept }) goOn
  | .getMore =>
      change (fun state => { state with line := joined setting state.line state.kept }) goOn
  | .keep => change (fun state => { state with kept := state.line }) goOn
  | .keepMore =>
      change (fun state => { state with kept := joined setting state.kept state.line }) goOn
  | .exchange => change (fun state => { state with line := state.kept, kept := state.line }) goOn
  | .clear => change (fun state => { state with line := { state.line with text := "" } }) goOn
  | .list width =>
      let forms := state.line.text.toList.map visible
      let listed := wrapped (width.getD setting.width) 0 forms
      also (printText setting (String.ofList listed ++ "$" ++ lineBreak setting))
  | .next => do
      if ← isLast setting manyTurns then pure .finished
      else do
        if !setting.isQuiet then printLine setting (← get).line
        if ← readLine setting (fun _ line => line) then pure goOn else pure .finished
  | .nextMore => do
      if ← isLast setting manyTurns then pure .finished
      else if ← readLine setting (joined setting) then pure goOn
      else pure .finished
  | .print => also (printLine setting state.line)
  | .printLine => also (printLine setting (firstLine lineEnd state.line))
  | .quit status => do
      if !setting.isQuiet then printLine setting state.line
      printLater setting
      pure (.over status)
  | .leave status => pure (.over status)
  | .readFile path => also (addLater (.file path))
  | .readLine path => also (takeLine setting path)
  | .writeFile path => also (writeTo setting path state.line)
  | .writeLine path => also (writeTo setting path (firstLine lineEnd state.line))
  | .substitute substitution => also (substitute setting substitution)
  | .translate table =>
      let text := state.line.text.map fun c => (table.lookup c).getD c
      change (fun state => { state with line := { state.line with text } }) goOn

/-- Where a command goes on whose addresses do not select the line. -/
def placeAfter (place : Nat) (command : Command) : Nat :=
  match command.verb with
  | .block stop => stop
  | _ => place + 1

/-- Run the commands from a place on; the first number bounds the steps. -/
def runFrom (setting : Setting) : Nat -> Nat -> Editor After
  | 0, _ => pure .finished
  | fuel + 1, place => do
      match setting.script.commands[place]? with
      | none => pure .finished
      | some command => do
          let after ← do
            if ← isSelected setting place command.selection then
              perform setting place command.verb
            else pure (.goOn (placeAfter place command))
          match after with
          | .goOn next => runFrom setting fuel next
          | other => pure other

/-- Run the script for all lines; the result is a status. -/
def runAll (setting : Setting) : Nat -> Bool -> Editor Nat
  | 0, _ => pure 0
  | fuel + 1, hasLine => do
      let ready ← if hasLine then pure true else readLine setting fun _ line => line
      if !ready then pure 0
      else
        match ← runFrom setting manyTurns 0 with
        | .over status => pure status
        | .again => runAll setting fuel true
        | .dropped => runAll setting fuel false
        | _ => do
            if !setting.isQuiet then printLine setting (← get).line
            runAll setting fuel false

/-- Edit all lines and write what is left to be written. -/
def whole (setting : Setting) : Editor Nat := do
  let status ← runAll setting manyTurns false
  closeSource setting
  flush setting
  pure (if (← get).failed then 2 else status)

end Editor

/-! ## The program -/

/-- The files that a command writes or reads line by line. -/
def Command.files (command : Command) : List Octets × List Octets :=
  match command.verb with
  | .writeFile path | .writeLine path => ([path], [])
  | .substitute substitution => (substitution.target.toList, [])
  | .readLine path => ([], [path])
  | _ => ([], [])

/-- Open the files that are written; the first one that cannot be opened ends this. -/
def openSinks : List Octets -> Act (Except (Octets × Fault) (List (Octets × Sink)))
  | [] => pure (.ok [])
  | path :: rest => do
      let target ← do
        if path == "/dev/stdout" then pure (.ok Target.output)
        else if path == "/dev/stderr" then pure (.ok .complaints)
        else pure ((← Act.call (.open path .writing)).map .file)
      match target with
      | .error fault => pure (.error (path, fault))
      | .ok target => pure ((← openSinks rest).map fun others => (path, { target }) :: others)

/-- Open the files that are read line by line; those that cannot be read are left out. -/
def openSources : List Octets -> Act (List (Octets × Source))
  | [] => pure []
  | path :: rest => do
      let found ←
        if path == "/dev/stdin" then pure (.ok 0) else Act.call (.open path .reading)
      let others ← openSources rest
      match found with
      | .ok descriptor => pure ((path, { descriptor }) :: others)
      | .error _ => pure others

/-- The options. -/
def options : OptionTable where
  letters :=
    [('n', .nothing), ('e', .something), ('f', .something), ('E', .nothing), ('r', .nothing),
      ('i', .perhaps), ('l', .something), ('s', .nothing), ('u', .nothing), ('z', .nothing),
      ('b', .nothing)]
  words :=
    [("binary", 'b', .nothing), ("expression", 'e', .something), ("file", 'f', .something),
      ("follow-symlinks", 'b', .nothing), ("in-place", 'i', .perhaps),
      ("line-length", 'l', .something), ("null-data", 'z', .nothing),
      ("zero-terminated", 'z', .nothing), ("quiet", 'n', .nothing), ("silent", 'n', .nothing),
      ("posix", 'b', .nothing), ("regexp-extended", 'E', .nothing), ("sandbox", 'S', .nothing),
      ("separate", 's', .nothing), ("unbuffered", 'u', .nothing)]

/-- How the program is called. -/
def usage : Octets :=
  "Usage: sed [OPTION]... \x7bscript-only-if-no-other-script\x7d [input-file]...\n"

/-- The text of a file with a script, or why it cannot be read. -/
def scriptFile (path : Octets) : Act (Except Fault Octets) := do
  match ← openInput path with
  | .error fault => pure (.error fault)
  | .ok descriptor => do
      let found ← readAll descriptor
      closeInput descriptor
      pure (found.map Octets.ofBytes)

/-- Read the parts of a script; the numbers are those of the parts before, and of arguments. -/
def readParts
    (given : List Given)
    (draft : Draft) :
    Nat -> Nat -> List Given -> Act (Except (Octets × Nat) (Draft × Nat))
  | _, count, [] => pure (.ok (draft, count))
  | before, count, option :: rest => do
      let argument := option.argument.getD ""
      let isFile := option.letter == 'f'
      let count := if isFile then count else count + 1
      let origin : Origin := if isFile then .file argument else .argument count
      let manner : Manner :=
        { origin, isFirst := before == 0, extended := isGiven given 'E' || isGiven given 'r'
          confined := isGiven given 'S' }
      let text ← if isFile then scriptFile argument else pure (.ok argument)
      match text with
      | .error fault => pure (.error (s!"couldn't open file {argument}: {fault.text}", 4))
      | .ok text =>
          match draft.add manner text with
          | .error complaint => pure (.error complaint)
          | .ok draft => readParts given draft (before + 1) count rest

/-- Complain about the arguments. -/
def refuseUse (name : Octets) (complaint : Option Octets) : Act Nat := do
  match complaint with
  | some text => warn name text
  | none => pure ()
  Act.complain usage
  pure 1

/-- Edit files by a script. -/
def edit
    (starter : Starter)
    (launch : Launch)
    (given : List Given)
    (parts : List Given)
    (files : List Octets) : Act Nat := do
  match ← readParts given {} 0 0 parts with
  | .error (text, status) => fail launch.name text status
  | .ok (draft, partCount) =>
      match draft.script with
      | .error (text, status) => fail launch.name text status
      | .ok script => do
          let used := script.commands.toList.map (·.files)
          match ← openSinks (used.flatMap (·.1)).eraseDups with
          | .error (path, fault) =>
              fail launch.name s!"couldn't open file {path}: {fault.text}" 4
          | .ok sinks => do
              let sources ← openSources (used.flatMap (·.2)).eraseDups
              let inPlace := isGiven given 'i'
              let setting : Setting :=
                { name := launch.name, starter, environment := launch.environment, script
                  partCount, isQuiet := script.isQuiet || isGiven given 'n'
                  separate := inPlace || isGiven given 's'
                  inPlace := if inPlace then some ((argumentOf? given 'i').getD "") else none
                  unbuffered := isGiven given 'u'
                  lineEnd := if isGiven given 'z' then 0 else 10
                  width := ((argumentOf? given 'l').bind natural?).getD 70 }
              if inPlace && files.isEmpty then fail launch.name "no input files" 4
              else
                let (result, _) ← (Editor.whole setting).run
                  { files := orInput files, ranges := firstRanges script, sinks, sources }
                pure (match result with
                  | .ok status | .error status => status)

end Editing

/-- Edit lines by a script. -/
def sed (starter : Starter) : Program := fun launch => do
  match Editing.options.read launch.args with
  | .error reason => Editing.refuseUse launch.name (some reason)
  | .ok (given, operands) =>
      match given.filter fun option => option.letter == 'e' || option.letter == 'f', operands with
      | [], [] => Editing.refuseUse launch.name none
      | [], script :: files =>
          Editing.edit starter launch given [{ letter := 'e', argument := some script }] files
      | parts, files => Editing.edit starter launch given parts files

end Programs
end CameraFleet
