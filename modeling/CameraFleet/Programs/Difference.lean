import CameraFleet.Programs.Changes
import CameraFleet.Programs.Copy
import CameraFleet.Programs.Listing
import CameraFleet.Programs.Status
import CameraFleet.Text.Regex.Reader

/-!
# Differences

Two files are compared line by line, or two directories name by name, and what
leads from one to the other is printed.
-/

namespace CameraFleet
namespace Programs

open Host

namespace Difference

/-- What is compared, and how. -/
structure Plan where
  /-- How changes are found and written. -/
  changes : Changes.Plan := {}
  /-- Whether only files that differ are named. -/
  isBrief : Bool := false
  /-- Whether files that do not differ are named. -/
  tellsSame : Bool := false
  /-- Whether all files count as text. -/
  allText : Bool := false
  /-- Whether directories in directories are compared. -/
  descends : Bool := false
  /-- Whether a file that is missing in the first directory counts as empty. -/
  fillsFirst : Bool := false
  /-- Whether a file that is missing in the second directory counts as empty. -/
  fillsSecond : Bool := false
  /-- Patterns of names that are left out. -/
  excluded : List Octets := []
  /-- Files in a directory are compared from this name on. -/
  start : Octets := ""
  /-- Whether the ends of lines may have a carriage return before them. -/
  dropsReturns : Bool := false
  /-- What stands for the names of files. -/
  labels : List Octets := []
  /-- The options as they were written. -/
  written : List Octets := []
  /-- The zone in which dates are shown. -/
  zone : Zone := {}

/-- What is found at a path. -/
structure Found where
  /-- The path. -/
  path : Octets
  /-- What can be seen of it; none if it counts as an empty file. -/
  sight : Option Sight
  deriving Repr, DecidableEq

namespace Found

/-- Whether it is a directory. -/
def isDirectory (found : Found) : Bool :=
  (found.sight.map (·.kind)) == some (.entry .directory)

/-- Whether it is a file that has a size. -/
def isFile (found : Found) : Bool :=
  (found.sight.map (·.kind)) == some (.entry .file)

/-- Whether it is a file that can be compared, or not there. -/
def isPlain (found : Found) : Bool :=
  found.sight.isNone || found.isFile ||
    (found.sight.map (·.kind)) == some (.entry .program)

end Found

/-- Look at what a path stands for. -/
def lookFor (path : Octets) : Act (Except Fault Found) := do
  let seen ← if path == "-" then Act.call (.lookAt 0) else Act.call (.look path true)
  pure (seen.map fun sight => { path, sight := some sight })

/-- Everything in a file. -/
def contentOf (found : Found) : Act (Except Fault ByteArray) := do
  if found.sight.isNone then pure (.ok .empty)
  else
    match ← openInput found.path with
    | .error fault => pure (.error fault)
    | .ok descriptor => do
        let content ← readAll descriptor
        closeInput descriptor
        pure content

/-- Whether there is a zero byte at the start of a file. -/
def isBinary (bytes : ByteArray) : Bool :=
  (bytes.extract 0 4096).data.contains 0

/-- A name as it stands in a heading. -/
def headingName (name : Octets) : Octets :=
  let letters := ('"', '"') :: ('\\', '\\') :: Quoted.escapeLetters
  let chars := name.toList
  let escaped := chars.flatMap fun c =>
    match letters.lookup c with
    | some letter => ['\\', letter]
    | none => if c < ' ' then '\\' :: Quoted.octal c else [c]
  if chars.contains ' ' || escaped != chars then "\"" ++ String.ofList escaped ++ "\"" else name

namespace Plan

/-- The two names of a pair, or what stands for them. -/
def namesOf (plan : Plan) (a b : Found) : Octets × Octets :=
  match plan.labels with
  | [] => (a.path, b.path)
  | [only] => (only, b.path)
  | first :: second :: _ => (first, second)

/-- The line of a heading for a file. -/
def headingLine
    (plan : Plan)
    (mark : Octets)
    (label : Option Octets)
    (found : Found) : Octets :=
  match label with
  | some label => s!"{mark} {label}\n"
  | none =>
      let changed := (found.sight.map (·.changed)).getD 0
      let format :=
        if plan.changes.layout == .context then "%a %b %e %T %Y" else Status.dateFormat
      let date := ({ instant := changed, zone := plan.zone } : Moment).format format
      s!"{mark} {headingName found.path}\t{date}\n"

/-- What stands above the changes of a pair of files. -/
def heading
    (plan : Plan)
    (isInside : Bool)
    (a b : Found) : Octets :=
  let (nameA, nameB) := plan.namesOf a b
  let words := plan.written ++ [headingName nameA, headingName nameB]
  let title := if isInside then "diff " ++ String.intercalate " " words ++ "\n" else ""
  let lines (first second : Octets) : Octets :=
    plan.headingLine first plan.labels[0]? a ++ plan.headingLine second plan.labels[1]? b
  match plan.changes.layout with
  | .unified => title ++ lines "---" "+++"
  | .context => title ++ lines "***" "---"
  | _ => title

/-- Lines without the carriage returns at their ends. -/
def withoutReturns (octets : Octets) : Octets :=
  octets.replace "\r\n" "\n"

/-- Compare the bytes of two files; the status is 1 if they differ. -/
def compareBytes
    (plan : Plan)
    (name : Octets)
    (isInside : Bool)
    (a b : Found)
    (first second : ByteArray) : Act Nat := do
  let (nameA, nameB) := plan.namesOf a b
  let changes := plan.changes
  if !plan.allText && (isBinary first || isBinary second) then
    if first == second then pure 0
    else
      let kind : Octets := if plan.isBrief then "Files" else "Binary files"
      printing name s!"{kind} {nameA} and {nameB} differ\n" 1
  else
    let textOf (bytes : ByteArray) : Changes.Text :=
      let octets := Octets.ofBytes bytes
      Changes.Text.ofOctets (if plan.dropsReturns then withoutReturns octets else octets)
    let pair : Changes.Pair := { old := textOf first, new := textOf second }
    let edits := changes.edits pair
    let differs := edits.any fun edit => !edit.isIgnored
    let status := if differs then 1 else 0
    let showsAll := changes.layout == .beside && !changes.omitsCommon
    if plan.isBrief then
      if differs then printing name s!"Files {nameA} and {nameB} differ\n" 1 else pure 0
    else do
      let status ←
        if differs || showsAll then
          printing name (plan.heading isInside a b ++ changes.text pair edits) status
        else pure status
      if changes.layout != .script && changes.layout != .forward then pure status
      else
        for (text, title) in [(pair.old, nameA), (pair.new, nameB)] do
          if !text.ended then warn name s!"{title}: No newline at end of file\n"
        pure (if pair.old.ended && pair.new.ended then status else 2)

/-- Compare two files. -/
def compareFiles
    (plan : Plan)
    (name : Octets)
    (isInside : Bool)
    (a b : Found) : Act Nat := do
  let first ← contentOf a
  let second ← contentOf b
  let faultOf (found : Found) (content : Except Fault ByteArray) : List Octets :=
    match content with
    | .ok _ => []
    | .error fault => [s!"{Quoted.wordIfNeeded found.path}: {fault.text}"]
  match first, second with
  | .ok first, .ok second => plan.compareBytes name isInside a b first second
  | _, _ => do
      for complaint in faultOf a first ++ faultOf b second do
        warn name complaint
      pure 2

/-- Whether two paths lead to the same file. -/
def areSame (a b : Found) : Bool :=
  match a.sight, b.sight with
  | some first, some second =>
      a.path == b.path || (first.number == second.number && first.kind == second.kind)
  | _, _ => false

/-- Whether the contents of a name in a directory are compared. -/
def includes (plan : Plan) (name : Octets) : Bool :=
  !plan.excluded.any (Listing.fits name) && !(decide (name < plan.start))

/-- The names in two directories, each with whether it is in the first and in the second one. -/
def merged (first second : List Octets) : List (Octets × Bool × Bool) :=
  let all := (first ++ second).eraseDups.mergeSort fun a b => decide (a ≤ b)
  all.map fun name => (name, first.contains name, second.contains name)

/-- The names of a directory that are compared. -/
def namesIn (plan : Plan) (found : Found) : Act (Except Fault (List Octets)) := do
  if !found.isDirectory then pure (.ok [])
  else
    match ← Act.call (.names found.path) with
    | .error fault => pure (.error fault)
    | .ok names => pure (.ok (names.filter plan.includes))

/-- Look at a name in a directory; what is missing counts as empty. -/
def lookInside
    (directory : Found)
    (child : Octets)
    (isThere : Bool) : Act (Except Fault Found) := do
  let path := childPath directory.path child
  if isThere then lookFor path else pure (.ok { path, sight := none })

/-- Tell that two files do not differ, if that is asked for. -/
def closing
    (plan : Plan)
    (name : Octets)
    (a b : Found)
    (status : Nat) : Act Nat := do
  let (nameA, nameB) := plan.namesOf a b
  if status = 0 && plan.tellsSame && !a.isDirectory then
    printing name s!"Files {nameA} and {nameB} are identical\n" 0
  else pure status

/-- What a file is, in words. -/
def kindOf (found : Found) : Octets :=
  (found.sight.map Status.kindText).getD "regular empty file"

/--
Compare two files or directories, which may lie inside of two others; the number
bounds how deep.
-/
def compare
    (plan : Plan)
    (name : Octets) : Nat -> Option (Found × Found) -> Found -> Found -> Act Nat
  | 0, _, _, _ => pure 2
  | depth + 1, above, a, b => do
      let (nameA, nameB) := plan.namesOf a b
      let showsAll := plan.changes.layout == .beside && !plan.changes.omitsCommon
      if areSame a b && !showsAll then plan.closing name a b 0
      else if a.isDirectory && b.isDirectory || (plan.descends && above.isSome &&
          ((a.isDirectory && b.sight.isNone) || (b.isDirectory && a.sight.isNone))) then
        if above.isSome && !plan.descends then
          printing name s!"Common subdirectories: {nameA} and {nameB}\n" 0
        else
          match ← plan.namesIn a, ← plan.namesIn b with
          | .ok first, .ok second => do
              let statuses ← (merged first second).mapM fun (child, inFirst, inSecond) => do
                let isShown := (inFirst && inSecond) || (inFirst && plan.fillsSecond) ||
                  (inSecond && plan.fillsFirst)
                if !isShown then
                  let place := if inFirst then a.path else b.path
                  printing name s!"Only in {place}: {child}\n" 1
                else
                  let found ← lookInside a child inFirst
                  let other ← lookInside b child inSecond
                  match found, other with
                  | .ok found, .ok other => plan.compare name depth (some (a, b)) found other
                  | _, _ => do
                      for (path, seen) in [(childPath a.path child, found),
                          (childPath b.path child, other)] do
                        if let .error fault := seen then
                          warn name s!"{Quoted.wordIfNeeded path}: {fault.text}"
                      pure 2
              pure (statuses.foldl max 0)
          | first, second => do
              for (path, names) in [(a.path, first), (b.path, second)] do
                if let .error fault := names then
                  warn name s!"{Quoted.wordIfNeeded path}: {fault.text}"
              pure 2
      else if a.isDirectory || b.isDirectory ||
          (above.isSome && !(a.isPlain && b.isPlain)) then
        match above with
        | some (first, second) =>
            if a.sight.isNone || b.sight.isNone then
              let (place, child) := if a.sight.isNone then (second, b) else (first, a)
              printing name s!"Only in {place.path}: {lastName child.path}\n" 1
            else
              printing name
                s!"File {nameA} is a {kindOf a} while file {nameB} is a {kindOf b}\n" 1
        | none =>
            printing name
              s!"File {nameA} is a {kindOf a} while file {nameB} is a {kindOf b}\n" 1
      else do
        let status ← plan.compareFiles name above.isSome a b
        plan.closing name a b status

/-- Look at what two operands stand for and compare it. -/
def compareOperands
    (plan : Plan)
    (name one other : Octets) : Act Nat := do
  let first ← lookFor one
  let second ← lookFor other
  let isMissing (seen : Except Fault Found) : Bool :=
    match seen with
    | .error fault => fault == .missing
    | .ok _ => false
  let filled (path : Octets) (seen others : Except Fault Found) (fills : Bool) :
      Except Fault Found :=
    if isMissing seen && fills && others.isOk then .ok { path, sight := none } else seen
  match filled one first second plan.fillsFirst, filled other second first plan.fillsSecond with
  | .ok a, .ok b =>
      let inside (directory file : Found) : Octets :=
        childPath directory.path (lastName file.path)
      if a.isDirectory == b.isDirectory || a.sight.isNone || b.sight.isNone then
        plan.compare name deepest none a b
      else if one == "-" || other == "-" then
        fail name "cannot compare '-' to a directory" 2
      else
        let path := if a.isDirectory then inside a b else inside b a
        match ← lookFor path with
        | .error fault => fail name s!"{Quoted.wordIfNeeded path}: {fault.text}" 2
        | .ok found =>
            if a.isDirectory then plan.compare name deepest none found b
            else plan.compare name deepest none a found
  | first, second => do
      for (path, seen) in [(one, first), (other, second)] do
        if let .error fault := seen then
          warn name s!"{Quoted.wordIfNeeded path}: {fault.text}"
      pure 2

end Plan

/-! ## Options -/

/-- The options. -/
def options : OptionTable where
  letters :=
    ("abBcdeEfiHlnNpPqrstTuvwyZ0123456789".toList.map fun letter => (letter, Taking.nothing)) ++
      ("CDFILSUWxX".toList.map fun letter => (letter, Taking.something))
  words :=
    [("brief", 'q', .nothing), ("report-identical-files", 's', .nothing),
      ("context", 'C', .perhaps), ("unified", 'U', .perhaps), ("ed", 'e', .nothing),
      ("forward-ed", 'f', .nothing), ("rcs", 'n', .nothing), ("normal", 'o', .nothing),
      ("side-by-side", 'y', .nothing), ("width", 'W', .something), ("left-column", 'j', .nothing),
      ("suppress-common-lines", 'J', .nothing), ("show-c-function", 'p', .nothing),
      ("show-function-line", 'F', .something), ("label", 'L', .something),
      ("expand-tabs", 't', .nothing), ("initial-tab", 'T', .nothing),
      ("tabsize", 'k', .something), ("suppress-blank-empty", 'K', .nothing),
      ("paginate", 'l', .nothing), ("recursive", 'r', .nothing),
      ("no-dereference", 'h', .nothing), ("new-file", 'N', .nothing),
      ("unidirectional-new-file", 'P', .nothing), ("ignore-file-name-case", 'h', .nothing),
      ("no-ignore-file-name-case", 'h', .nothing), ("exclude", 'x', .something),
      ("exclude-from", 'X', .something), ("starting-file", 'S', .something),
      ("ignore-case", 'i', .nothing), ("ignore-tab-expansion", 'E', .nothing),
      ("ignore-trailing-space", 'Z', .nothing), ("ignore-space-change", 'b', .nothing),
      ("ignore-all-space", 'w', .nothing), ("ignore-blank-lines", 'B', .nothing),
      ("ignore-matching-lines", 'I', .something), ("text", 'a', .nothing),
      ("strip-trailing-cr", 'R', .nothing), ("minimal", 'd', .nothing),
      ("horizon-lines", 'g', .something), ("speed-large-files", 'H', .nothing),
      ("color", 'h', .perhaps)]

/-- The layout that an option asks for. -/
def layoutOf (letter : Char) : Option Changes.Layout :=
  match letter with
  | 'u' | 'U' => some .unified
  | 'c' | 'C' => some .context
  | 'e' => some .script
  | 'f' => some .forward
  | 'n' => some .counted
  | 'o' => some .plain
  | 'y' => some .beside
  | _ => none

/-- The layout that options ask for, or what is wrong with them. -/
def layoutAmong (given : List Given) : Except Octets (Option Changes.Layout) :=
  match (given.filterMap fun option => layoutOf option.letter).eraseDups with
  | [] => .ok none
  | [only] => .ok (some only)
  | _ => .error "conflicting output style options"

/-- The number of lines around changes that an option asks for, or what is wrong with it. -/
def aroundOf (option : Given) : Except Octets Nat :=
  match option.letter, option.argument with
  | 'u', _ | 'c', _ => .ok 3
  | 'U', none | 'C', none => .ok 3
  | 'U', some text | 'C', some text =>
      match natural? text with
      | some n => .ok n
      | none => .error s!"invalid context length '{text}'"
  | _, _ => .ok 0

/-- The number that an option gives, or what is wrong with it. -/
def numberOf
    (given : List Given)
    (letter : Char)
    (what : Octets)
    (usual : Nat) : Except Octets Nat :=
  match argumentOf? given letter with
  | none => .ok usual
  | some text =>
      match natural? text with
      | some (n + 1) => .ok (n + 1)
      | _ => .error s!"invalid {what} '{text}'"

/-- The blanks that do not count. -/
def blanksOf (given : List Given) : Changes.Blanks :=
  if isGiven given 'w' then .none
  else if isGiven given 'b' then .amount
  else if isGiven given 'E' then if isGiven given 'Z' then .tabsAndTrailing else .tabs
  else if isGiven given 'Z' then .trailing
  else .all

/-- The regular expression that an option gives, or what is wrong with it. -/
def regexOf (given : List Given) (letter : Char) : Except Octets (Option Regex) :=
  match argumentOf? given letter with
  | none => .ok none
  | some text =>
      match Regex.read {} text with
      | .ok regex => .ok (some regex)
      | .error mistake => .error s!"{text}: {mistake.text}"

/-- The lines at which functions of a program start. -/
def functionStart : Except Octets (Option Regex) :=
  match Regex.read {} "^[[:alpha:]$_]" with
  | .ok regex => .ok (some regex)
  | .error mistake => .error mistake.text

/-- What is compared, and how, or what is wrong with the options. -/
def planOf
    (given : List Given)
    (written : List Octets)
    (zone : Zone) : Except Octets Plan := do
  let values (letter : Char) : List Octets := given.filterMap fun option =>
    if option.letter == letter then option.argument else none
  let asked? ← layoutAmong given
  let arounds ← given.mapM aroundOf
  let width ← numberOf given 'W' "width" 130
  let tabSize ← numberOf given 'k' "tabsize" 8
  let ignored ← regexOf given 'I'
  let functions ← if isGiven given 'p' then functionStart else regexOf given 'F'
  let layout := asked?.getD (if isGiven given 'p' then .context else .plain)
  let digits := (given.map (·.letter)).filter Char.isDigit
  let asked := (natural? (String.ofList digits)).getD 0
  let isExplicit := given.any fun option =>
    ['C', 'U'].contains option.letter && option.argument.isSome
  let most := arounds.foldl max (if asked?.isSome then 0 else 3)
  let around :=
    if digits.isEmpty || (asked < most && isExplicit) then most else asked
  let isGrouped := layout == .unified || layout == .context
  let leniency : Changes.Leniency :=
    { blanks := blanksOf given, foldsCase := isGiven given 'i', emptyLines := isGiven given 'B'
      ignored, tabSize }
  let changes : Changes.Plan :=
    { layout, around := if isGrouped then around else 0, leniency, heading := functions
      expandsTabs := isGiven given 't', startsWithTab := isGiven given 'T'
      keepsEmpty := isGiven given 'K', width, leftOnly := isGiven given 'j'
      omitsCommon := isGiven given 'J' }
  pure
    { changes, isBrief := isGiven given 'q', tellsSame := isGiven given 's'
      allText := isGiven given 'a', descends := isGiven given 'r'
      fillsFirst := isGiven given 'N' || isGiven given 'P', fillsSecond := isGiven given 'N'
      excluded := values 'x', start := (argumentOf? given 'S').getD ""
      dropsReturns := isGiven given 'R', labels := values 'L', written, zone }

/-- The arguments that are options; the number bounds the steps. -/
def optionWords : Nat -> List Octets -> List Octets
  | 0, _ => []
  | _ + 1, [] => []
  | fuel + 1, arg :: args =>
      let left : Option (List Octets) :=
        match arg.toList with
        | '-' :: '-' :: word =>
            match options.readWord (String.ofList word) args with
            | .ok (_, left) => some left
            | .error _ => some args
        | '-' :: first :: letters =>
            match options.readLetters (first :: letters) args with
            | .ok (_, left) => some left
            | .error _ => some args
        | _ => none
      match left with
      | none => optionWords fuel args
      | some left =>
          if arg == "--" then [arg]
          else (arg :: args.take (args.length - left.length)) ++ optionWords fuel left

/-- Complain about the arguments. -/
def misused (name text : Octets) : Act Nat := do
  if !text.isEmpty then warn name text
  warn name s!"Try '{name} --help' for more information."
  pure 2

/-- Print what leads from one file to another one. -/
def program : Program := fun launch => do
  let zone := Zone.ofEnvironment launch.environment
  match options.read launch.args with
  | .error reason => misused launch.name reason
  | .ok (given, operands) =>
      let words := optionWords (launch.args.length + 1) launch.args
      match planOf given (words.map Quoted.wordIfNeeded) zone with
      | .error reason => misused launch.name reason
      | .ok plan =>
          match operands with
          | [one, other] => plan.compareOperands launch.name one other
          | _ :: _ :: extra :: _ => misused launch.name s!"extra operand '{extra}'"
          | few =>
              let last := (few.getLast?.orElse fun _ => words.getLast?).getD launch.name
              misused launch.name s!"missing operand after '{last}'"

end Difference

/-- Print what leads from one file to another one. -/
def diff : Program :=
  Difference.program

end Programs
end CameraFleet
