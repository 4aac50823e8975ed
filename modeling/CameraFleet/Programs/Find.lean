import CameraFleet.Programs.FindTest
import CameraFleet.Programs.Listing
import CameraFleet.Programs.Search

/-!
# Finding files

The files in a tree are visited one after another, and an expression is tested
for each. What it prints is written before a command runs and at the end.
-/

namespace CameraFleet
namespace Programs
namespace Find

open Host

/-! ## What a search knows -/

/-- A file to which a search comes. -/
structure Visit where
  /-- Its path. -/
  path : Octets
  /-- The path at which the search has started. -/
  start : Octets
  /-- How far below that it is. -/
  level : Nat
  /-- What can be seen of it. -/
  sight : Sight

/-- What is the same for all files of a search. -/
structure Setting where
  /-- What the program was started with. -/
  launch : Launch
  /-- How other programs are started. -/
  starter : Starter
  /-- How the search goes. -/
  manner : Manner
  /-- The present. -/
  now : Moment
  /-- The expression. -/
  test : Test
  /-- The descriptors of files that are written. -/
  files : List (Octets × Nat)

/-- A command that waits for its files. -/
structure Waiting where
  /-- The number of the test. -/
  number : Nat
  /-- The directory in which it runs, if not in that of the search. -/
  directory : Option Octets
  /-- Its words. -/
  words : List Octets
  /-- The paths of the files. -/
  paths : List Octets

/-- How far a search has come. -/
structure State where
  /-- What has not been written. -/
  pending : ByteArray := .empty
  /-- Whether something went wrong. -/
  failed : Bool := false
  /-- Whether the search is over. -/
  isOver : Bool := false
  /-- Whether the content of the latest directory is left out. -/
  prunes : Bool := false
  /-- The commands that wait for their files. -/
  waiting : List Waiting := []

/-- What is done in a search. -/
abbrev Walk (α : Type) := StateT State Act α

namespace Walk

/-- Write what has not been written. -/
def flush (setting : Setting) : Walk Unit := do
  let state ← get
  set { state with pending := .empty }
  if !(← emit setting.launch.name state.pending) then
    modify fun state => { state with failed := true }

/-- Write a text to the output or to a file. -/
def write
    (setting : Setting)
    (file : Option Octets)
    (text : Octets) : Walk Unit := do
  match file.bind fun path => setting.files.lookup path with
  | some descriptor => do
      if descriptor = 1 then flush setting
      let _ ← Act.call (.write descriptor (Octets.toBytes text))
  | none => do
      modify fun state => { state with pending := state.pending ++ Octets.toBytes text }
      if bufferSize ≤ (← get).pending.size then flush setting

/-- Complain about something that went wrong. -/
def blame (setting : Setting) (text : Octets) : Walk Unit := do
  warn setting.launch.name text
  modify fun state => { state with failed := true }

end Walk

/-! ## What is known of a file -/

/-- The name of a file, which is the whole path if that ends with a slash. -/
def Visit.name (visit : Visit) : Octets :=
  if visit.path.all (· == '/') then visit.path
  else if visit.path.endsWith "/" then lastName visit.path ++ "/"
  else lastName visit.path

/-- The path before the name. -/
def Visit.directory (visit : Visit) : Octets :=
  let chars := (visit.path.toList.reverse.dropWhile (· == '/')).reverse
  let before := (chars.reverse.dropWhile (· != '/')).reverse
  if before.isEmpty then (if visit.path.startsWith "/" then "" else ".")
  else String.ofList before.dropLast

/-- The path below the start. -/
def Visit.below (visit : Visit) : Octets :=
  let rest := visit.path.toList.drop visit.start.length
  String.ofList (rest.dropWhile (· == '/'))

/-- The letter for what a file is. -/
def kindLetter (kind : Host.Kind) : Octets :=
  let letter := Listing.kindLetter kind
  if letter == "-" then "f" else letter

/-- What can be seen of a file when its link is followed, or not, against what is usual. -/
def otherSight (setting : Setting) (visit : Visit) : Act (Option Sight) := do
  let follows := setting.manner.follows == some true
  match ← Act.call (.look visit.path !follows) with
  | .ok sight => pure (some sight)
  | .error _ => pure none

/-- The part of a date that a letter stands for in a format. -/
def datePart
    (zone : Zone)
    (instant : Int)
    (letter : Char) : Octets :=
  let moment : Moment := { instant, zone }
  let fraction := "." ++ Text.padded 3 (instant % 1000).toNat ++ "0000000"
  match letter with
  | '@' => toString moment.seconds ++ fraction
  | '+' => moment.format "%Y-%m-%d+%H:%M:%S" ++ fraction
  | 'S' => moment.format "%S" ++ fraction
  | 'T' | 'X' => moment.format "%H:%M:%S" ++ fraction
  | _ => moment.format (String.ofList ['%', letter])

/-- The date of a file in the usual form. -/
def usualDate (zone : Zone) (instant : Int) : Octets :=
  let moment : Moment := { instant, zone }
  let fraction := Text.padded 3 (instant % 1000).toNat ++ "0000000"
  moment.format "%a %b %e %H:%M:%S." ++ fraction ++ moment.format " %Y"

/-- What a directive of a format stands for. -/
def shown
    (setting : Setting)
    (visit : Visit)
    (directive : Directive)
    (letter : Char) : Act Octets := do
  let sight := visit.sight
  let zone := setting.now.zone
  let text (text : Octets) : Act Octets := pure (directive.text text)
  match directive.conversion with
  | 'p' => text visit.path
  | 'f' => text visit.name
  | 'h' => text visit.directory
  | 'P' => text visit.below
  | 'H' => text visit.start
  | 'd' => pure (directive.integer visit.level)
  | 's' => text (toString sight.size)
  | 'k' => text (toString (Listing.blockBytes sight / 1024))
  | 'b' => text (toString (Listing.blockBytes sight / 512))
  | 'm' => pure ({ directive with conversion := 'o' }.integer sight.rights)
  | 'M' => text (Listing.rights sight)
  | 'y' => text (kindLetter sight.kind)
  | 'Y' => do
      match sight.kind with
      | .entry (.link _) =>
          match ← Act.call (.look visit.path true) with
          | .ok other => text (kindLetter other.kind)
          | .error .endlessLinks => text "L"
          | .error _ => text "N"
      | kind => text (kindLetter kind)
  | 'l' =>
      match sight.kind with
      | .entry (.link target) => text target
      | _ => text ""
  | 'i' => text (toString sight.number)
  | 'n' => text (toString sight.links)
  | 'u' | 'g' => text "root"
  | 'U' | 'G' => text "0"
  | 'D' => text "50"
  | 'F' => text "overlay"
  | 'S' => text "1"
  | 'a' | 'c' | 't' => text (usualDate zone sight.changed)
  | 'A' | 'B' | 'C' | 'T' => text (datePart zone sight.changed letter)
  | '%' => pure "%"
  | _ => text ""

/-- A path in which what cannot be shown, and a blank, follow a backslash. -/
def escapedPath (path : Octets) : Octets :=
  String.ofList (path.toList.flatMap fun c =>
    if c == ' ' || c == '\\' || c == '"' then ['\\', c]
    else
      match Quoted.escape? c with
      | some code => '\\' :: code
      | none => [c])

/-- The line about a file. -/
def line (setting : Setting) (visit : Visit) : Octets :=
  let sight := visit.sight
  let moment : Moment := { setting.now with instant := sight.changed }
  let recent := Listing.isRecent setting.now.instant sight.changed
  let date := moment.format (if recent then "%b %e %H:%M" else "%b %e  %Y")
  let target :=
    match sight.kind with
    | .entry (.link target) => " -> " ++ escapedPath target
    | _ => ""
  let blocks := Listing.blockBytes sight / 1024
  let parts : List Octets :=
    [rightAligned 9 sight.number, rightAligned 6 blocks, Listing.rights sight,
      rightAligned 3 sight.links, "root    ", "root    ", rightAligned 8 sight.size, date,
      escapedPath visit.path ++ target]
  String.intercalate " " parts ++ "\n"

/-! ## Commands -/

/-- A text with a path in place of every pair of braces. -/
def withPath (path text : Octets) : Octets :=
  text.replace "\x7b\x7d" path

/-- The directory in which a command runs for a file, and the path of the file from there. -/
def placeOf (visit : Visit) : Octets × Octets :=
  if visit.path.all (· == '/') then ("/", "/")
  else
    let directory := if visit.path.contains '/' then visit.directory else "."
    (if directory.isEmpty then "/" else directory, "./" ++ lastName visit.path)

/-- Run a command to its end, perhaps in a directory; the result is whether that went well. -/
def runCommand
    (setting : Setting)
    (directory : Option Octets)
    (words : List Octets) : Walk Bool := do
  Walk.flush setting
  let name := words.headD ""
  let launch := { setting.launch with name, args := words.drop 1 }
  let ending : Ending ← inCopy do
    match directory with
    | some path => do
        let _ ← Act.call (.enter path)
    | none => pure ()
    startOr setting.starter launch fun fault =>
      s!"{setting.launch.name}: {Quoted.plain name}: {fault.text}\n"
  pure (ending == .exited 0)

/-- The most bytes of the paths for one command. -/
def mostBytes : Nat := 100000

/-- Let a command wait with one more path. -/
def addPath
    (number : Nat)
    (words : List Octets)
    (directory : Option Octets)
    (path : Octets) : Walk Unit :=
  modify fun state =>
    let isSame (other : Waiting) : Bool :=
      other.number == number && other.directory == directory &&
        other.paths.foldl (fun size path => size + path.length + 1) 0 < mostBytes
    let waiting :=
      if state.waiting.any isSame then
        state.waiting.map fun other =>
          if isSame other then { other with paths := other.paths ++ [path] } else other
      else state.waiting ++ [{ number, directory, words, paths := [path] }]
    { state with waiting }

/-- Run the commands that wait. -/
def runWaiting (setting : Setting) : Walk Unit := do
  let waiting := (← get).waiting
  modify fun state => { state with waiting := [] }
  for command in waiting do
    let went ← runCommand setting command.directory (command.words ++ command.paths)
    if !went then modify fun state => { state with failed := true }

/-! ## Tests -/

/-- Whether a pattern matches a text. -/
def fits
    (pattern text : Octets)
    (foldsCase : Bool) : Bool :=
  if foldsCase then Listing.fits text.toLower pattern.toLower else Listing.fits text pattern

/-- Whether an instant is some units ago. -/
def isAgo
    (now instant : Int)
    (amount : Amount)
    (unit : Nat)
    (ofDays : Bool) : Bool :=
  let units : Int := amount.count * unit
  match amount.comparison, ofDays with
  | .more, true => instant ≤ now - units - unit
  | .more, false => instant ≤ now - units
  | .less, true => now - units - 1000 < instant
  | .less, false => now - units < instant
  | .exactly, true => now - units - unit < instant && instant ≤ now - units
  | .exactly, false => now - units < instant && instant ≤ now - units + unit

/-- Whether there is nothing in a file. -/
def isEmpty (visit : Visit) : Act Bool := do
  match visit.sight.kind with
  | .entry .directory => do
      match ← Act.call (.names visit.path) with
      | .ok names => pure names.isEmpty
      | .error _ => pure false
  | .entry .file => pure (visit.sight.size = 0)
  | _ => pure false

/-- Take away a file. -/
def delete (setting : Setting) (visit : Visit) : Walk Bool := do
  if visit.path == "." then pure true
  else do
    let change : Change :=
      if visit.sight.kind == .entry .directory then .removeDirectory visit.path
      else .remove visit.path
    match ← Act.call (.change change) with
    | .ok () => pure true
    | .error fault => do
        Walk.blame setting s!"cannot delete {Quoted.plain visit.path}: {fault.text}"
        pure false

/-- Whether a file passes a test, which may do something. -/
def evaluate
    (setting : Setting)
    (visit : Visit) : Test -> Walk Bool
  | .constant value => pure value
  | .name pattern foldsCase =>
      pure (fits pattern (withoutSlashes visit.name) foldsCase)
  | .path pattern foldsCase => pure (fits pattern visit.path foldsCase)
  | .target pattern foldsCase =>
      match visit.sight.kind with
      | .entry (.link target) => pure (fits pattern target foldsCase)
      | _ => pure false
  | .regex regex foldsCase =>
      let subject : Regex.Subject := { chars := visit.path.toList.toArray, foldsCase }
      match regex.matchAt? subject 0 with
      | some found => pure (found.stop = subject.chars.size)
      | none => pure false
  | .kind letters otherwise => do
      let sight ←
        if otherwise then do pure ((← otherSight setting visit).getD visit.sight)
        else pure visit.sight
      pure (letters.any fun letter => kindLetter sight.kind == String.singleton letter)
  | .size amount unit => pure (amount.holds ((visit.sight.size + unit - 1) / unit))
  | .empty => isEmpty visit
  | .newerThan path => do
      match ← Act.call (.look path (setting.manner.follows != some false)) with
      | .ok other => pure (other.changed < visit.sight.changed)
      | .error _ => pure false
  | .newerThanTime instant => pure (instant < visit.sight.changed)
  | .age amount unit ofDays =>
      pure (isAgo setting.now.instant visit.sight.changed amount unit ofDays)
  | .rights test rights =>
      pure (match test with
        | .exactly => visit.sight.rights == rights
        | .all => visit.sight.rights &&& rights == rights
        | .any => visit.sight.rights &&& rights != 0)
  | .links amount => pure (amount.holds visit.sight.links)
  | .number amount => pure (amount.holds visit.sight.number)
  | .runnable => do
      match ← Act.call (.look visit.path true) with
      | .ok sight => pure sight.isRunnable
      | .error _ => pure false
  | .same path => do
      match ← Act.call (.look path (setting.manner.follows != some false)) with
      | .ok other => pure (other.number == visit.sight.number)
      | .error _ => pure false
  | .print mark file => do
      Walk.write setting file (visit.path ++ mark)
      pure true
  | .printFormat pieces file => do
      for piece in pieces do
        match piece with
        | .text text => Walk.write setting file text
        | .part directive letter => do
            Walk.write setting file (← shown setting visit directive letter)
        | .stop => if file.isNone then Walk.flush setting
      pure true
  | .list => do
      Walk.write setting none (line setting visit)
      pure true
  | .run words inPlace => do
      let (directory, path) := placeOf visit
      if inPlace then runCommand setting (some directory) (words.map (withPath path))
      else runCommand setting none (words.map (withPath visit.path))
  | .runMany number words inPlace => do
      let (directory, path) := placeOf visit
      if inPlace then addPath number words (some directory) path
      else addPath number words none visit.path
      pure true
  | .delete => delete setting visit
  | .prune => do
      if !setting.manner.depthFirst then modify fun state => { state with prunes := true }
      pure true
  | .quit => do
      modify fun state => { state with isOver := true }
      pure true
  | .both first second => do
      let passes ← evaluate setting visit first
      if passes && !(← get).isOver then evaluate setting visit second else pure false
  | .either first second => do
      let passes ← evaluate setting visit first
      if passes || (← get).isOver then pure true else evaluate setting visit second
  | .sequence first second => do
      let _ ← evaluate setting visit first
      if (← get).isOver then pure true else evaluate setting visit second
  | .not test => do
      let passes ← evaluate setting visit test
      pure !passes

/-! ## The search -/

/-- Test a file if it is deep enough. -/
def consider (setting : Setting) (visit : Visit) : Walk Unit := do
  modify fun state => { state with prunes := false }
  if setting.manner.highest ≤ visit.level && !(← get).isOver then
    let _ ← evaluate setting visit setting.test

/-- What can be seen of a file; a link that leads nowhere is itself. -/
def sightFor
    (setting : Setting)
    (level : Nat)
    (path : Octets) : Act (Except Fault Sight) := do
  let follows :=
    match setting.manner.follows with
    | some follows => follows
    | none => level = 0
  match ← Act.call (.look path follows) with
  | .ok sight => pure (.ok sight)
  | .error fault =>
      if follows then do
        match ← Act.call (.look path false) with
        | .ok sight => pure (.ok sight)
        | .error _ => pure (.error fault)
      else pure (.error fault)

/--
Visit a file and, if it is a directory, the files in it. The directories above
it are given by number and path; the first number bounds the levels.
-/
def visitTree
    (setting : Setting)
    (start : Octets) : Nat -> List (Nat × Octets) -> Octets -> Walk Unit
  | 0, _, _ => pure ()
  | depth + 1, above, path => do
      let level := above.length
      if (← get).isOver then return
      match ← sightFor setting level path with
      | .error fault => Walk.blame setting s!"{Quoted.plain path}: {fault.text}"
      | .ok sight =>
          let visit : Visit := { path, start, level, sight }
          let isDirectory := sight.kind == .entry .directory
          match if isDirectory then above.lookup sight.number else none with
          | some other =>
              Walk.blame setting
                (s!"File system loop detected; {Quoted.plain path} is part of the same file " ++
                  s!"system loop as {Quoted.plain other}.")
          | none => do
              if !setting.manner.depthFirst then consider setting visit
              let descends :=
                isDirectory && setting.manner.deepest.all (level < ·) &&
                  (setting.manner.depthFirst || !(← get).prunes)
              if descends then
                match ← Act.call (.names path) with
                | .error fault => Walk.blame setting s!"{Quoted.plain path}: {fault.text}"
                | .ok names =>
                    for name in names do
                      visitTree setting start depth ((sight.number, path) :: above)
                        (childPath path name)
              if setting.manner.depthFirst then consider setting visit

/-! ## The program -/

/-- What precedes the paths. -/
structure Lead where
  /-- Whether links are followed; none if only those that are named. -/
  follows : Option Bool := some false
  /-- The names of debugging outputs that are asked for. -/
  outputs : List Octets := []
  /-- The arguments after that. -/
  args : List Octets := []
  deriving Repr, DecidableEq

/-- The names of debugging outputs. -/
def knownOutputs : List Octets :=
  ["all", "exec", "help", "opt", "rates", "search", "stat", "time", "tree"]

/-- Read what precedes the paths. -/
def Lead.read (lead : Lead) : List Octets -> Except Octets Lead
  | [] => .ok lead
  | "-D" :: outputs :: args =>
      read { lead with outputs := lead.outputs ++ outputs.splitOn "," } args
  | arg :: args =>
      if arg == "-H" then read { lead with follows := none } args
      else if arg == "-L" then read { lead with follows := some true } args
      else if arg == "-P" then read { lead with follows := some false } args
      else if arg == "--" then .ok { lead with args }
      else if arg.startsWith "-O" then
        match natural? (String.ofList (arg.toList.drop 2)) with
        | some _ => read lead args
        | none =>
            if arg == "-O" then
              .error "The -O option must be immediately followed by a decimal integer"
            else .error "Please specify a decimal number immediately after -O"
      else .ok { lead with args := arg :: args }

/-- The files that a test writes. -/
def Test.files : Test -> List Octets
  | .print _ file | .printFormat _ file => file.toList
  | .both first second | .either first second | .sequence first second =>
      first.files ++ second.files
  | .not test => test.files
  | _ => []

/-- Open the files that are written; the result may be one that cannot be opened. -/
def openFiles : List Octets -> Act (Except (Octets × Fault) (List (Octets × Nat)))
  | [] => pure (.ok [])
  | path :: rest => do
      let opened ←
        match path with
        | "/dev/stdout" => pure (.ok 1)
        | "/dev/stderr" => pure (.ok 2)
        | _ => Act.call (.open path .writing)
      match opened with
      | .error fault => pure (.error (path, fault))
      | .ok descriptor => do
          match ← openFiles rest with
          | .error failure => pure (.error failure)
          | .ok others => pure (.ok ((path, descriptor) :: others))

/-- The first of some paths that leads nowhere. -/
def firstMissing : List Octets -> Act (Option (Octets × Fault))
  | [] => pure none
  | path :: rest => do
      match ← Act.call (.look path false) with
      | .ok _ => firstMissing rest
      | .error fault => pure (some (path, fault))

/-- Complain about a path after the tests. -/
def refusePath
    (name path : Octets)
    (previous : Option Octets) : Act Nat := do
  warn name s!"paths must precede expression: \x60{path}'"
  match ← Act.call (.look path false), previous with
  | .ok _, some test => do
      warn name s!"possible unquoted pattern after predicate \x60{test}'?"
      pure 1
  | _, _ => pure 1

/-- The complaint about files that are taken away though directories are left out. -/
def deletionComplaint : Octets :=
  "The -delete action automatically turns on -depth, but -prune does nothing when -depth is " ++
    "in effect.  If you want to carry on anyway, just explicitly use the -depth option."

/-- Search the trees at some paths. -/
def searchAll (setting : Setting) (paths : List Octets) : Act Nat := do
  let search : Walk Unit := do
    for path in paths do
      visitTree setting path deepest [] path
    runWaiting setting
    Walk.flush setting
  let ((), state) ← search.run {}
  pure (if state.failed then 1 else 0)

/-- Find files. -/
def find (starter : Starter) : Program := fun launch => do
  let refuse (text : Octets) : Act Nat := fail launch.name text 1
  match Lead.read {} launch.args with
  | .error reason => refuse reason
  | .ok { follows, outputs, args } => do
      for output in outputs do
        if !knownOutputs.contains output then
          warn launch.name s!"Ignoring unrecognised debug flag {Quoted.plain output}"
      let isPath (arg : Octets) : Bool := !Reader.startsExpression arg
      let paths := args.takeWhile isPath
      let now : Moment :=
        { instant := ← Act.call .date, zone := Zone.ofEnvironment launch.environment }
      let progress : Progress := { args := args.dropWhile isPath, manner := { follows }, now }
      match (Reader.tokens (args.length + 1)).run progress with
      | .error (.text reason) => refuse reason
      | .error (.strayPath path previous) => refusePath launch.name path previous
      | .ok (tokens, progress) => do
          for warning in progress.warnings do
            warn launch.name s!"warning: {warning}"
          match ← firstMissing progress.needed, testOf tokens with
          | some (path, fault), _ => refuse s!"{Quoted.plain path}: {fault.text}"
          | none, .error reason => refuse reason
          | none, .ok test =>
              if progress.deletes && progress.prunes && !progress.saysDepth then
                refuse deletionComplaint
              else
                let test := if progress.acts then test else .both test (.print "\n" none)
                match ← openFiles test.files with
                | .error (path, fault) => refuse s!"{Quoted.plain path}: {fault.text}"
                | .ok files =>
                    let setting : Setting :=
                      { launch, starter, manner := progress.manner, now, test, files }
                    searchAll setting (if paths.isEmpty then ["."] else paths)

end Find
end Programs
end CameraFleet
