import CameraFleet.Programs.Basic
import CameraFleet.Text.Alignment
import CameraFleet.Text.Regex

/-!
# Changes as texts

What leads from one text to another one is a list of changes. They are written
one by one, or in groups with the lines around them, or beside each other, or as
commands that make the changes.
-/

namespace CameraFleet
namespace Programs
namespace Changes

/-! ## Texts -/

/-- A text with lines. -/
structure Text where
  /-- The lines without their ends. -/
  lines : Array Octets
  /-- Whether the last line has an end. -/
  ended : Bool
  deriving Repr, DecidableEq

namespace Text

/-- The lines of some octets. -/
def ofOctets (octets : Octets) : Text :=
  let (lines, ended) := linesOf octets
  { lines := lines.toArray, ended }

/-- Whether a line has an end. -/
def isEnded (text : Text) (place : Nat) : Bool :=
  text.ended || place + 1 != text.lines.size

end Text

/-- Which blanks do not count. -/
inductive Blanks
  /-- All of them count. -/
  | all
  /-- It does not matter whether they are tabs. -/
  | tabs
  /-- Those at the ends of lines do not count. -/
  | trailing
  /-- Both. -/
  | tabsAndTrailing
  /-- It does not matter how many there are. -/
  | amount
  /-- None of them count. -/
  | none
  deriving Repr, DecidableEq

/-- What does not count when lines are compared. -/
structure Leniency where
  /-- The blanks that do not count. -/
  blanks : Blanks := .all
  /-- Whether the case of letters does not count. -/
  foldsCase : Bool := false
  /-- Whether changes of empty lines do not count. -/
  emptyLines : Bool := false
  /-- Changes of lines in which there is a match do not count. -/
  ignored : Option Regex := Option.none
  /-- How far apart tab stops are. -/
  tabSize : Nat := 8

namespace Leniency

/-- Whether a character is a blank of any kind. -/
def isBlank (c : Char) : Bool :=
  c == ' ' || ('\t' ≤ c && c ≤ '\r')

/-- Characters without the blanks at their end. -/
def trimmed (chars : List Char) : List Char :=
  (chars.reverse.dropWhile isBlank).reverse

/-- Characters with blanks for tabs; the number is the column. -/
def expanded (tabSize : Nat) : Nat -> List Char -> List Char
  | _, [] => []
  | column, '\t' :: rest =>
      let count := tabSize - column % tabSize
      List.replicate count ' ' ++ expanded tabSize (column + count) rest
  | column, c :: rest => c :: expanded tabSize (column + 1) rest

/-- Characters with one blank for each run of blanks. -/
def squeezed (afterBlank : Bool) : List Char -> List Char
  | [] => []
  | c :: rest =>
      if isBlank c then if afterBlank then squeezed true rest else ' ' :: squeezed true rest
      else c :: squeezed false rest

/-- What counts of a line. -/
def key (leniency : Leniency) (line : Octets) : Octets :=
  let chars := line.toList
  let chars := if leniency.foldsCase then chars.map Char.toLower else chars
  let chars :=
    match leniency.blanks with
    | .all => chars
    | .tabs => expanded leniency.tabSize 0 chars
    | .trailing => trimmed chars
    | .tabsAndTrailing => trimmed (expanded leniency.tabSize 0 chars)
    | .amount => squeezed false (trimmed chars)
    | .none => chars.filter fun c => !isBlank c
  String.ofList chars

/-- Whether the ends of lines count. -/
def countsEnds (leniency : Leniency) : Bool :=
  leniency.blanks == .all || leniency.blanks == .tabs

/-- What counts of the lines of a text. -/
def keys
    (leniency : Leniency)
    (text : Text)
    (minding : Bool) : List Octets :=
  text.lines.toList.zipIdx.map fun (line, place) =>
    let key := leniency.key line
    if minding && leniency.countsEnds && !text.isEnded place then key ++ "\n" else key

/-- Whether changes of a line do not count. -/
def ignores (leniency : Leniency) (line : Octets) : Bool :=
  let isEmpty :=
    match leniency.blanks with
    | .amount | .none => line.toList.all isBlank
    | _ => line.isEmpty
  let isFound :=
    match leniency.ignored with
    | some regex => (regex.search? { chars := line.toList.toArray } 0).isSome
    | Option.none => false
  (leniency.emptyLines && isEmpty) || isFound

/-- Whether changes may be ignored at all. -/
def ignoresSome (leniency : Leniency) : Bool :=
  leniency.emptyLines || leniency.ignored.isSome

end Leniency

/-! ## Hunks -/

/-- How changes are written. -/
inductive Layout
  /-- One by one. -/
  | plain
  /-- In groups, with the lines of both texts together. -/
  | unified
  /-- In groups, with the lines of both texts apart. -/
  | context
  /-- As commands of an editor, the last one first. -/
  | script
  /-- As commands, the first one first. -/
  | forward
  /-- As commands with numbers of lines. -/
  | counted
  /-- Both texts beside each other. -/
  | beside
  deriving Repr, DecidableEq

/-- How changes are found and written. -/
structure Plan where
  /-- How they are written. -/
  layout : Layout := .plain
  /-- How many lines around changes are written. -/
  around : Nat := 0
  /-- What does not count. -/
  leniency : Leniency := {}
  /-- A group is headed by the last line before it in which there is a match. -/
  heading : Option Regex := none
  /-- Whether tabs are written as blanks. -/
  expandsTabs : Bool := false
  /-- Whether a tab stands before each line. -/
  startsWithTab : Bool := false
  /-- Whether nothing stands before an empty line. -/
  keepsEmpty : Bool := false
  /-- How wide both texts are together when they stand beside each other. -/
  width : Nat := 130
  /-- Whether common lines are written on the left only. -/
  leftOnly : Bool := false
  /-- Whether common lines are left out. -/
  omitsCommon : Bool := false

/-- A change of some lines, and whether it may be ignored. -/
structure Edit where
  /-- The change. -/
  change : Alignment.Change
  /-- Whether it may be ignored. -/
  isIgnored : Bool := false
  deriving Repr, DecidableEq

/-- Where lines start and stop. -/
structure Extent where
  /-- The place of the first line. -/
  start : Nat
  /-- The place after the last line. -/
  stop : Nat
  deriving Repr, DecidableEq

namespace Extent

/-- Whether there are no lines. -/
def isEmpty (extent : Extent) : Bool :=
  extent.stop ≤ extent.start

/-- The places. -/
def places (extent : Extent) : List Nat :=
  List.range' extent.start (extent.stop - extent.start)

/-- The numbers of the first and the last line, or of the line before. -/
def text (extent : Extent) (sign : Octets) : Octets :=
  if extent.start + 1 < extent.stop then s!"{extent.start + 1}{sign}{extent.stop}"
  else toString extent.stop

/-- The number of the first line, and how many lines there are. -/
def counted (extent : Extent) : Octets :=
  if extent.start + 1 < extent.stop then s!"{extent.start + 1},{extent.stop - extent.start}"
  else if extent.isEmpty then s!"{extent.stop},0"
  else toString extent.stop

/-- An extent with so many lines around, among so many. -/
def widened (extent : Extent) (around size : Nat) : Extent :=
  { start := extent.start - around, stop := min (extent.stop + around) size }

end Extent

/-- The texts between which there are changes. -/
structure Pair where
  /-- The old text. -/
  old : Text
  /-- The new text. -/
  new : Text

/-- Some changes that are written together. -/
structure Hunk where
  /-- The changes. -/
  edits : List Edit
  /-- The extent in the old text. -/
  old : Extent
  /-- The extent in the new text. -/
  new : Extent
  /-- Whether lines are taken away. -/
  deletes : Bool
  /-- Whether lines are added. -/
  inserts : Bool

namespace Plan

/-- Whether changes need not count. -/
def isTrivial
    (plan : Plan)
    (pair : Pair)
    (changes : List Alignment.Change) : Bool :=
  plan.leniency.ignoresSome && changes.all fun change =>
    let ignored (text : Text) (start count : Nat) : Bool :=
      (List.range' start count).all fun place => plan.leniency.ignores (text.lines.getD place "")
    ignored pair.old change.oldStart change.oldCount &&
      ignored pair.new change.newStart change.newCount

/-- The changes between two texts. -/
def edits (plan : Plan) (pair : Pair) : List Edit :=
  let minding := plan.layout != .script && plan.layout != .forward
  let changes :=
    Alignment.changes plan.around (plan.leniency.keys pair.old minding)
      (plan.leniency.keys pair.new minding)
  changes.map fun change => { change, isIgnored := plan.isTrivial pair [change] }

/-- Some changes that are written together. -/
def hunkOf (edits : List Edit) : Hunk :=
  let changes := edits.map (·.change)
  let first := changes.head?.getD { oldStart := 0, oldCount := 0, newStart := 0, newCount := 0 }
  let last := changes.getLast?.getD first
  { edits
    old := { start := first.oldStart, stop := last.oldStart + last.oldCount }
    new := { start := first.newStart, stop := last.newStart + last.newCount }
    deletes := changes.any (·.oldCount != 0), inserts := changes.any (·.newCount != 0) }

/-- Whether two changes are written together. -/
def isNear (plan : Plan) (a b : Edit) : Bool :=
  let gap := b.change.oldStart - (a.change.oldStart + a.change.oldCount)
  gap < (if a.isIgnored || b.isIgnored then plan.around else 2 * plan.around + 1)

/-- Put changes that are near to each other in groups. -/
def groups (plan : Plan) : List Edit -> List (List Edit)
  | [] => []
  | edit :: rest =>
      match groups plan rest with
      | (next :: more) :: others =>
          if plan.isNear edit next then (edit :: next :: more) :: others
          else [edit] :: (next :: more) :: others
      | others => [edit] :: others

/-- The hunks that are written. -/
def hunks
    (plan : Plan)
    (edits : List Edit) : List Hunk :=
  let groups :=
    match plan.layout with
    | .unified | .context => plan.groups edits
    | _ => edits.map fun edit => [edit]
  (groups.filter fun group => group.any fun edit => !edit.isIgnored).map hunkOf

/-! ## Lines -/

/-- A line of a text as it is written, without its end. -/
def shown (plan : Plan) (line : Octets) : Octets :=
  if plan.expandsTabs then
    String.ofList (Leniency.expanded plan.leniency.tabSize 0 line.toList)
  else line

/-- A line with its end, or with a remark that it has none. -/
def finished
    (plan : Plan)
    (text : Text)
    (place : Nat) : Octets :=
  let line := plan.shown (text.lines.getD place "")
  if text.isEnded place then line ++ "\n"
  else line ++ "\n\\ No newline at end of file\n"

/-- A line after a mark and a blank. -/
def marked
    (plan : Plan)
    (mark : Octets)
    (text : Text)
    (place : Nat) : Octets :=
  let isEmpty := (text.lines.getD place "").isEmpty && text.isEnded place
  let gap :=
    if plan.keepsEmpty && isEmpty then "" else if plan.startsWithTab then "\t" else " "
  mark ++ gap ++ plan.finished text place

/-- A line right after a mark. -/
def flagged
    (plan : Plan)
    (mark : Octets)
    (text : Text)
    (place : Nat) : Octets :=
  let isEmpty := (text.lines.getD place "").isEmpty && text.isEnded place
  let gap :=
    if !plan.startsWithTab || (plan.keepsEmpty && isEmpty) then "" else "\t"
  mark ++ gap ++ plan.finished text place

/-! ## Layouts -/

/-- The letter of a change. -/
def letter (hunk : Hunk) : Octets :=
  if hunk.deletes then if hunk.inserts then "c" else "d" else "a"

/-- A change by itself. -/
def plainText (plan : Plan) (pair : Pair) (hunk : Hunk) : Octets :=
  let head := hunk.old.text "," ++ letter hunk ++ hunk.new.text "," ++ "\n"
  let deleted := hunk.old.places.map (plan.marked "<" pair.old)
  let inserted := hunk.new.places.map (plan.marked ">" pair.new)
  let between := if hunk.deletes && hunk.inserts then "---\n" else ""
  head ++ String.join deleted ++ between ++ String.join inserted

/-- The heading of a group, with a blank before it. -/
def headingText (plan : Plan) (pair : Pair) (start : Nat) : Octets :=
  match plan.heading with
  | none => ""
  | some regex =>
      let before := (pair.old.lines.toList.take start).reverse
      match before.find? fun line => (regex.search? { chars := line.toList.toArray } 0).isSome with
      | none => ""
      | some line =>
          let chars := (line.toList.dropWhile Leniency.isBlank).take 40
          " " ++ String.ofList (Leniency.trimmed chars)

/-- The lines of a group together; the number bounds them. -/
def together (plan : Plan) (pair : Pair) (stop : Nat) : Nat -> Nat -> List Edit -> Octets
  | 0, _, _ => ""
  | fuel + 1, place, edits =>
      let common : Octets :=
        let isEmpty := (pair.old.lines.getD place "").isEmpty && pair.old.isEnded place
        let gap :=
          if plan.keepsEmpty && isEmpty then "" else if plan.startsWithTab then "\t" else " "
        gap ++ plan.finished pair.old place
      match edits with
      | [] =>
          if place < stop then common ++ together plan pair stop fuel (place + 1) [] else ""
      | { change, .. } :: rest =>
          if place < change.oldStart then
            common ++ together plan pair stop fuel (place + 1) edits
          else
            let deleted := (List.range' change.oldStart change.oldCount).map
              (plan.flagged "-" pair.old)
            let inserted := (List.range' change.newStart change.newCount).map
              (plan.flagged "+" pair.new)
            String.join deleted ++ String.join inserted ++
              together plan pair stop fuel (change.oldStart + change.oldCount) rest

/-- A group with the lines of both texts together. -/
def unifiedText (plan : Plan) (pair : Pair) (hunk : Hunk) : Octets :=
  let old := hunk.old.widened plan.around pair.old.lines.size
  let new := hunk.new.widened plan.around pair.new.lines.size
  let head := s!"@@ -{old.counted} +{new.counted} @@" ++ plan.headingText pair old.start ++ "\n"
  let fuel := old.stop + hunk.edits.length + 1
  head ++ plan.together pair old.stop fuel old.start hunk.edits

/-- The lines of one text, with a mark before those that change. -/
def apart
    (plan : Plan)
    (text : Text)
    (extent : Extent)
    (changed : List (Extent × Octets)) : Octets :=
  let line (place : Nat) : Octets :=
    let found := changed.find? fun (part, _) => part.start ≤ place && place < part.stop
    plan.marked ((found.map (·.2)).getD " ") text place
  String.join (extent.places.map line)

/-- A group with the lines of both texts apart. -/
def contextText (plan : Plan) (pair : Pair) (hunk : Hunk) : Octets :=
  let old := hunk.old.widened plan.around pair.old.lines.size
  let new := hunk.new.widened plan.around pair.new.lines.size
  let changes := hunk.edits.map (·.change)
  let deleted := changes.map fun change =>
    ({ start := change.oldStart, stop := change.oldStart + change.oldCount : Extent },
      if change.newCount = 0 then "-" else "!")
  let inserted := changes.map fun change =>
    ({ start := change.newStart, stop := change.newStart + change.newCount : Extent },
      if change.oldCount = 0 then "+" else "!")
  "***************" ++ plan.headingText pair old.start ++ "\n" ++
    "*** " ++ old.text "," ++ " ****\n" ++
    (if hunk.deletes then plan.apart pair.old old deleted else "") ++
    "--- " ++ new.text "," ++ " ----\n" ++
    (if hunk.inserts then plan.apart pair.new new inserted else "")

/-- Lines that are added by a command; the flag says whether lines are being taken. -/
def scriptLines : Bool -> List Octets -> Octets
  | takesLines, [] => if takesLines then ".\n" else ""
  | takesLines, line :: rest =>
      let again := if takesLines then "" else "a\n"
      if line == "." then again ++ "..\n.\ns/.//\n" ++ scriptLines false rest
      else again ++ line ++ "\n" ++ scriptLines true rest

/-- A change as a command of an editor. -/
def scriptText (pair : Pair) (hunk : Hunk) : Octets :=
  let head := hunk.old.text "," ++ letter hunk ++ "\n"
  let lines := hunk.new.places.map fun place => pair.new.lines.getD place ""
  if hunk.inserts then head ++ scriptLines true lines else head

/-- A change as a command. -/
def forwardText (pair : Pair) (hunk : Hunk) : Octets :=
  let head := letter hunk ++ hunk.old.text " " ++ "\n"
  let lines := hunk.new.places.map fun place => pair.new.lines.getD place "" ++ "\n"
  if hunk.inserts then head ++ String.join lines ++ ".\n" else head

/-- A change as commands with numbers of lines. -/
def countedText (pair : Pair) (hunk : Hunk) : Octets :=
  let deleted :=
    if hunk.deletes then s!"d{hunk.old.start + 1} {hunk.old.stop - hunk.old.start}\n" else ""
  let lines := hunk.new.places.map fun place =>
    pair.new.lines.getD place "" ++ (if pair.new.isEnded place then "\n" else "")
  let inserted :=
    if hunk.inserts then
      s!"a{hunk.old.stop} {hunk.new.stop - hunk.new.start}\n" ++ String.join lines
    else ""
  deleted ++ inserted

/-! ## Beside each other -/

/-- The widths of two texts that stand beside each other. -/
structure Columns where
  /-- The width of each. -/
  half : Nat
  /-- Where the second one starts. -/
  second : Nat
  deriving Repr, DecidableEq

/-- The widths of two texts that stand beside each other. -/
def columns (plan : Plan) : Columns :=
  let tab := if plan.expandsTabs then 1 else plan.leniency.tabSize
  let both := tab + 3
  let middle := plan.width / 2 + both / 2 + plan.width % 2 * (both % 2)
  let offset := middle - middle % tab
  let half := min (offset - 3) (plan.width - offset)
  { half, second := if half = 0 then plan.width else offset }

/-- The text that leads from one column to another one; the number bounds the tabs. -/
def tabsTo (plan : Plan) : Nat -> Nat -> Nat -> Octets
  | 0, _, _ => ""
  | fuel + 1, column, goal =>
      let size := plan.leniency.tabSize
      let next := column + size - column % size
      if !plan.expandsTabs && next ≤ goal then "\t" ++ tabsTo plan fuel next goal
      else String.ofList (List.replicate (goal - column) ' ')

/-- The start of a line that fits, and its width. -/
def halfLine (plan : Plan) (limit : Nat) : Nat -> Nat -> List Char -> Octets × Nat
  | _, place, [] => ("", place)
  | inner, place, c :: rest =>
      if c == '\t' then
        let count := plan.leniency.tabSize - inner % plan.leniency.tabSize
        let stop := place + count
        if inner != place then halfLine plan limit (inner + count) place rest
        else if plan.expandsTabs then
          let stop := min stop limit
          let (text, last) := halfLine plan limit (inner + count) stop rest
          (String.ofList (List.replicate (stop - place) ' ') ++ text, last)
        else if stop < limit then
          let (text, last) := halfLine plan limit (inner + count) stop rest
          ("\t" ++ text, last)
        else halfLine plan limit (inner + count) place rest
      else if c < ' ' || '\x7e' < c then
        let (text, last) := halfLine plan limit inner place rest
        (if inner < limit then String.singleton c ++ text else text, last)
      else if inner < limit then
        let (text, last) := halfLine plan limit (inner + 1) (inner + 1) rest
        (String.singleton c ++ text, last)
      else halfLine plan limit (inner + 1) place rest

/-- A line of each text, one of which may be missing, with a sign between them. -/
def pairLine
    (plan : Plan)
    (pair : Pair)
    (old : Option Nat)
    (sign : Char)
    (new : Option Nat) : Octets :=
  let columns := plan.columns
  let isEnded (text : Text) (place : Option Nat) : Bool := place.any text.isEnded
  let (left, column) :=
    match old with
    | some place => plan.halfLine columns.half 0 0 (pair.old.lines.getD place "").toList
    | none => ("", 0)
  let hasEnd := isEnded pair.old old
  let sign :=
    if sign == '|' && hasEnd != isEnded pair.new new then if hasEnd then '/' else '\\' else sign
  let middle := (columns.half + columns.second - 1) / 2
  let (center, column) :=
    if sign == ' ' then ("", column)
    else (plan.tabsTo columns.second column middle ++ String.singleton sign, middle + 1)
  let right :=
    match new with
    | none => ""
    | some place =>
        let line := pair.new.lines.getD place ""
        if line.isEmpty && pair.new.isEnded place then ""
        else
          plan.tabsTo columns.second column columns.second ++
            (plan.halfLine columns.half 0 0 line.toList).1
  left ++ center ++ right ++ (if hasEnd || isEnded pair.new new then "\n" else "")

/-- Common lines from two places on, up to two others. -/
def commonLines
    (plan : Plan)
    (pair : Pair)
    (old new : Extent) : Octets :=
  if plan.omitsCommon then ""
  else
    let lefts := old.places
    let rights := new.places
    if plan.leftOnly then
      String.join (lefts.map fun place => plan.pairLine pair (some place) '(' none)
    else
      let both := (lefts.zip rights).map fun (a, b) => plan.pairLine pair (some a) ' ' (some b)
      let right := (rights.drop lefts.length).map fun b => plan.pairLine pair none ')' (some b)
      let left := (lefts.drop rights.length).map fun a => plan.pairLine pair (some a) '(' none
      String.join (both ++ right ++ left)

/-- Changed lines beside each other. -/
def changedLines
    (plan : Plan)
    (pair : Pair)
    (hunk : Hunk) : Octets :=
  let lefts := hunk.old.places
  let rights := hunk.new.places
  let both := (lefts.zip rights).map fun (a, b) => plan.pairLine pair (some a) '|' (some b)
  let right := (rights.drop lefts.length).map fun b => plan.pairLine pair none '>' (some b)
  let left := (lefts.drop rights.length).map fun a => plan.pairLine pair (some a) '<' none
  String.join (both ++ right ++ left)

/-- Two texts beside each other, from two places on. -/
def besideText (plan : Plan) (pair : Pair) : Nat -> Nat -> List Hunk -> Octets
  | i, j, [] =>
      plan.commonLines pair { start := i, stop := pair.old.lines.size }
        { start := j, stop := pair.new.lines.size }
  | i, j, hunk :: rest =>
      plan.commonLines pair { start := i, stop := hunk.old.start }
        { start := j, stop := hunk.new.start } ++
        plan.changedLines pair hunk ++ besideText plan pair hunk.old.stop hunk.new.stop rest

/-- The text of some changes. -/
def text
    (plan : Plan)
    (pair : Pair)
    (edits : List Edit) : Octets :=
  let hunks := plan.hunks edits
  match plan.layout with
  | .plain => String.join (hunks.map (plan.plainText pair))
  | .unified => String.join (hunks.map (plan.unifiedText pair))
  | .context => String.join (hunks.map (plan.contextText pair))
  | .script => String.join (hunks.reverse.map (scriptText pair))
  | .forward => String.join (hunks.map (forwardText pair))
  | .counted => String.join (hunks.map (countedText pair))
  | .beside => plan.besideText pair 0 0 hunks

end Plan
end Changes
end Programs
end CameraFleet
