import CameraFleet.Programs.Amount
import CameraFleet.Programs.Copy
import CameraFleet.Programs.DateText
import CameraFleet.Programs.Sort
import CameraFleet.Programs.Tree
import CameraFleet.Shell.Pattern

/-!
# Listing directories

Files are listed before directories, and each directory on its own. The names
of a directory come in order, and those with a dot at their start only if asked
for.
-/

namespace CameraFleet
namespace Programs

open Host

/-- The order in which files are listed. -/
inductive ListingOrder
  /-- In no particular order. -/
  | none
  /-- By their names. -/
  | name
  /-- Large ones first. -/
  | size
  /-- Those first that were changed last. -/
  | time
  /-- By what follows the last dot of their names. -/
  | ending
  /-- By their names, in which numbers count as such. -/
  | version
  /-- Those with short names first. -/
  | width
  deriving Repr, DecidableEq

/-- How names are put on a page. -/
inductive ListingLayout
  /-- Each in a line of its own. -/
  | single
  /-- With all that is known of the file. -/
  | long
  /-- With commas between them. -/
  | commas
  /-- In columns, one after the other. -/
  | columns
  /-- In rows, one after the other. -/
  | rows
  deriving Repr, DecidableEq

/-- How files are listed. -/
structure Listing where
  /-- Whether names with a dot at their start are listed; two of them only if all are. -/
  hidden : Option Bool := none
  /-- Patterns of names that are not listed. -/
  ignored : List Octets := []
  /-- Patterns of names that are not listed unless names with a dot are. -/
  hides : List Octets := []
  /-- Whether directories are listed as files. -/
  asFiles : Bool := false
  /-- Whether directories in directories are listed too. -/
  descends : Bool := false
  /-- Whether the order is reversed. -/
  reversed : Bool := false
  /-- The order. -/
  order : ListingOrder := .name
  /-- Whether directories come first. -/
  directoriesFirst : Bool := false
  /-- Whether a mark after a name tells what it is; of directories only, or of all. -/
  marks : Option Bool := none
  /-- Whether links are followed. -/
  follows : Bool := false
  /-- How names are put on a page. -/
  layout : ListingLayout := .single
  /-- Whether the owner is named. -/
  owner : Bool := true
  /-- Whether the group is named. -/
  group : Bool := true
  /-- Whether the owner and the group have numbers. -/
  numeric : Bool := false
  /-- Whether numbers of files are shown. -/
  numbers : Bool := false
  /-- Whether blocks are shown. -/
  blocks : Bool := false
  /-- The units of sizes. -/
  units : Option UnitScale := none
  /-- Whether names are in double quotes. -/
  quotes : Bool := false
  /-- The width of a page. -/
  width : Nat := 80
  /-- What ends an item. -/
  itemEnd : Octets := "\n"
  /-- The formats of dates: those of long ago or to come, and recent ones. -/
  formats : Octets × Octets := ("%b %e  %Y", "%b %e %H:%M")
  /-- The present. -/
  now : Moment := { instant := 0 }

/-- Something that is listed. -/
structure Listed where
  /-- The name under which it is listed. -/
  name : Octets
  /-- What it is. -/
  sight : Sight
  deriving Repr, DecidableEq

namespace Listing

/-- The formats of dates of a style, if there is such a style. -/
def formatsOf? (style : Octets) : Option (Octets × Octets) :=
  match style.toList with
  | '+' :: format =>
      match (String.ofList format).splitOn "\n" with
      | [old, recent] => some (old, recent)
      | _ => some (String.ofList format, String.ofList format)
  | _ =>
      let styles :=
        [("full-iso", "%Y-%m-%d %H:%M:%S.%N %z", "%Y-%m-%d %H:%M:%S.%N %z"),
          ("long-iso", "%Y-%m-%d %H:%M", "%Y-%m-%d %H:%M"), ("iso", "%Y-%m-%d ", "%m-%d %H:%M"),
          ("locale", "%b %e  %Y", "%b %e %H:%M")]
      let name := if style.startsWith "posix-" then "locale" else style
      styles.lookup name

/-- What is wrong with a style of dates. -/
def styleComplaint (style : Octets) : Octets :=
  s!"invalid argument {Quoted.plain style} for 'time style'\nValid arguments are:\n" ++
    "  - [posix-]full-iso\n  - [posix-]long-iso\n  - [posix-]iso\n  - [posix-]locale\n" ++
    "  - +FORMAT (e.g., +%H:%M) for a 'date'-style format"

/-- Look up a word for an option among words of one meaning, or say what is wrong with it. -/
def wordFor
    (option : Octets)
    (words : List (List Octets × α))
    (word : Octets) : Except Octets α :=
  match words.find? fun (names, _) => names.contains word with
  | some (_, value) => .ok value
  | none =>
      match words.filter fun (names, _) => names.any fun name => name.startsWith word with
      | [(_, value)] => .ok value
      | _ =>
          let lines := String.join (words.map fun (names, _) =>
            "\n  - " ++ String.intercalate ", " (names.map fun name => s!"'{name}'"))
          .error
            s!"invalid argument {Quoted.plain word} for '--{option}'\nValid arguments are:{lines}"

/-- The order that an option asks for, if it asks for one. -/
def orderOf (option : Given) : Except Octets (Option ListingOrder) :=
  match option.letter with
  | 'U' | 'f' => .ok (some .none)
  | 'S' => .ok (some .size)
  | 't' => .ok (some .time)
  | 'X' => .ok (some .ending)
  | 'v' => .ok (some .version)
  | 'O' =>
      (wordFor "sort"
        [(["none"], ListingOrder.none), (["time"], .time), (["size"], .size),
          (["extension"], .ending), (["version"], .version), (["width"], .width)]
        (option.argument.getD "")).map some
  | _ => .ok none

/-- The layout that an option asks for, if it asks for one. -/
def layoutOf (option : Given) : Except Octets (Option ListingLayout) :=
  match option.letter with
  | '1' => .ok (some .single)
  | 'l' | 'g' | 'o' | 'n' | 'D' => .ok (some .long)
  | 'm' => .ok (some .commas)
  | 'C' => .ok (some .columns)
  | 'x' => .ok (some .rows)
  | 'M' =>
      (wordFor "format"
        [(["verbose", "long"], ListingLayout.long), (["commas"], .commas),
          (["horizontal", "across"], .rows), (["vertical"], .columns),
          (["single-column"], .single)] (option.argument.getD "")).map some
  | _ => .ok none

/-- The layout after several options; a long one stays long if just single lines are asked for. -/
def lastLayout (layouts : List ListingLayout) : ListingLayout :=
  layouts.foldl
    (fun before layout => if before == .long && layout == .single then .long else layout) .single

/-- How the options say that files are listed, or what is wrong with them. -/
def ofOptions (now : Moment) (given : List Given) : Except Octets Listing := do
  let orders ← given.mapM orderOf
  let layouts ← given.mapM layoutOf
  let style :=
    if isGiven given 'D' && !isGiven given 'E' then "full-iso"
    else (argumentOf? given 'E').getD "locale"
  let arguments (letter : Char) : List Octets :=
    (given.filter (·.letter == letter)).filterMap (·.argument)
  let width ←
    match argumentOf? given 'w' with
    | none => pure 80
    | some text =>
        match natural? text with
        | some width => pure width
        | none => throw s!"invalid line width: {Quoted.plain text}"
  match formatsOf? style with
  | none => throw (styleComplaint style)
  | some formats =>
      let layout := lastLayout (layouts.filterMap fun layout => layout)
      pure
        { hidden := (lastOf? given ['a', 'A', 'f']).map fun letter => letter != 'A'
          ignored := arguments 'I' ++ (if isGiven given 'B' then ["*~", ".*~"] else [])
          hides := arguments 'H'
          asFiles := isGiven given 'd'
          descends := isGiven given 'R'
          reversed := isGiven given 'r'
          order := ((orders.filterMap fun order => order).getLast?).getD .name
          directoriesFirst := isGiven given 'y'
          marks := (lastOf? given ['p', 'F']).map (· == 'F')
          follows := isGiven given 'L'
          layout
          owner := !isGiven given 'g'
          group := !(isGiven given 'o' || isGiven given 'G')
          numeric := isGiven given 'n'
          numbers := isGiven given 'i'
          blocks := isGiven given 's'
          units :=
            (lastOf? given ['h', 'Y']).map fun letter =>
              if letter == 'h' then .binary else .decimal
          quotes := isGiven given 'Q'
          width
          itemEnd := if isGiven given '0' then "\x00" else "\n"
          formats, now }

/-- Whether a pattern matches a name. -/
def fits (name pattern : Octets) : Bool :=
  let cells := pattern.toList.map fun c => ({ char := c } : Shell.Cell)
  Shell.Pattern.isMatch (Shell.Pattern.ofCells cells) name.toList

/-- Whether a name in a directory is listed. -/
def lists (listing : Listing) (name : Octets) : Bool :=
  let isShown := listing.hidden.isSome || (!name.startsWith "." && !listing.hides.any (fits name))
  isShown && !listing.ignored.any (fits name)

/-- What follows the last dot of a name. -/
def endingOf (name : Octets) : Octets :=
  if name.contains '.' then
    "." ++ String.ofList ((name.toList.reverse.takeWhile (· != '.')).reverse)
  else ""

/-- Put what is listed in order. -/
def ordered (listing : Listing) (entries : List Listed) : List Listed :=
  let byName := entries.mergeSort fun a b => decide (a.name ≤ b.name)
  let sorted :=
    match listing.order with
    | .none => entries
    | .name => byName
    | .size => byName.mergeSort fun a b => decide (b.sight.size ≤ a.sight.size)
    | .time => byName.mergeSort fun a b => decide (b.sight.changed ≤ a.sight.changed)
    | .ending => byName.mergeSort fun a b => decide (endingOf a.name ≤ endingOf b.name)
    | .version =>
        byName.mergeSort fun a b =>
          SortKey.compareVersions a.name.toList b.name.toList != .gt
    | .width => byName.mergeSort fun a b => decide (a.name.length ≤ b.name.length)
  let turned := if listing.reversed then sorted.reverse else sorted
  if listing.directoriesFirst then
    let (directories, others) :=
      turned.partition fun listed => listed.sight.kind == .entry .directory
    directories ++ others
  else turned

/-- The mark after a name. -/
def mark (listing : Listing) (sight : Sight) : Octets :=
  match listing.marks, sight.kind with
  | none, _ => ""
  | some _, .entry .directory => "/"
  | some true, .entry (.link _) => "@"
  | some true, .entry .program | some true, .entry .file => if sight.isRunnable then "*" else ""
  | some true, .pipe | some true, .entry .fifo => "|"
  | _, _ => ""

/-- The letter for what a file is. -/
def kindLetter : Host.Kind -> Octets
  | .entry .directory => "d"
  | .entry (.link _) => "l"
  | .entry (.device _) | .entry .unavailable => "c"
  | .pipe | .entry .fifo => "p"
  | .connection => "s"
  | _ => "-"

/-- The letters for what a file is and what may be done with it. -/
def rights (sight : Sight) : Octets :=
  kindLetter sight.kind ++ Rights.nineLetters sight.rights

/-- The bytes of the blocks that a file takes up. -/
def blockBytes (sight : Sight) : Nat :=
  match sight.kind with
  | .entry .directory | .entry .file | .entry .program => (sight.size + 4095) / 4096 * 4096
  | _ => 0

/-- A number of bytes as a number of blocks. -/
def blockText (listing : Listing) (bytes : Nat) : Octets :=
  match listing.units with
  | some units => units.short bytes
  | none => toString ((bytes + 1023) / 1024)

/-- The size of a file. -/
def sizeText (listing : Listing) (sight : Sight) : Octets :=
  match listing.units with
  | some units => units.short sight.size
  | none => toString sight.size

/-- Whether an instant is no more than half a year ago, in milliseconds. -/
def isRecent (now instant : Int) : Bool :=
  now - 15778476000 < instant && instant ≤ now

/-- The date of a file. -/
def dateText (listing : Listing) (sight : Sight) : Octets :=
  let recent := isRecent listing.now.instant sight.changed
  let format := if recent then listing.formats.2 else listing.formats.1
  { listing.now with instant := sight.changed }.format format

/-- A text with blanks before it. -/
def leftFilled (width : Nat) (text : Octets) : Octets :=
  String.ofList (List.replicate (width - text.length) ' ') ++ text

/-- The name of a file as it is listed. -/
def nameText (listing : Listing) (listed : Listed) : Octets :=
  let name :=
    if listing.quotes then "\"" ++ (listed.name.replace "\\" "\\\\").replace "\"" "\\\"" ++ "\""
    else listed.name
  name ++ listing.mark listed.sight

/-- The widths of columns. -/
structure Widths where
  /-- Of numbers of files. -/
  numbers : Nat
  /-- Of blocks. -/
  blocks : Nat
  /-- Of links. -/
  links : Nat
  /-- Of sizes. -/
  sizes : Nat

/-- The widths that some files need. -/
def widths (listing : Listing) (entries : List Listed) : Widths :=
  let widest (text : Sight -> Octets) : Nat :=
    entries.foldl (fun most listed => max most (text listed.sight).length) 0
  { numbers := widest fun sight => toString sight.number
    blocks := widest fun sight => listing.blockText (blockBytes sight)
    links := widest fun sight => toString sight.links
    sizes := widest listing.sizeText }

/-- What stands before a name in every layout. -/
def lead (listing : Listing) (widths : Widths) (sight : Sight) : Octets :=
  (if listing.numbers then leftFilled widths.numbers (toString sight.number) ++ " " else "") ++
    (if listing.blocks then
      leftFilled widths.blocks (listing.blockText (blockBytes sight)) ++ " "
    else "")

/-- The item of something that is listed. -/
def item (listing : Listing) (widths : Widths) (listed : Listed) : Octets :=
  let sight := listed.sight
  let name := listing.lead widths sight
  if listing.layout != .long then name ++ listing.nameText listed
  else
    let target :=
      match sight.kind with
      | .entry (.link target) => " -> " ++ target
      | _ => ""
    let account := if listing.numeric then "0 " else "root "
    name ++ s!"{rights sight} {leftFilled widths.links (toString sight.links)} " ++
      (if listing.owner then account else "") ++ (if listing.group then account else "") ++
      s!"{leftFilled widths.sizes (listing.sizeText sight)} {listing.dateText sight} " ++
      listing.nameText listed ++ target

/-- Names in lines of limited width, with commas between them; the number is the last column. -/
def commaLines (width : Nat) : List Octets -> Nat -> Octets -> Octets
  | [], _, text => if text.isEmpty then "" else text ++ "\n"
  | name :: rest, column, text =>
      if column = 0 then commaLines width rest name.length (text ++ name)
      else if column + name.length + 2 < width then
        commaLines width rest (column + name.length + 2) (text ++ ", " ++ name)
      else commaLines width rest name.length (text ++ ",\n" ++ name)

/-- What leads from one column to another: tabs where they reach, and blanks. -/
def gap (stop : Nat) : Nat -> Nat -> Octets
  | 0, _ => ""
  | fuel + 1, start =>
      if stop ≤ start then ""
      else if (start + 1) / 8 < stop / 8 then "\t" ++ gap stop fuel (start + 8 - start % 8)
      else " " ++ gap stop fuel (start + 1)

/-- The widths of so many columns, and the column of each place. -/
def columnWidths (names : Array Octets) (across : Bool) (count : Nat) : List Nat :=
  let rows := (names.size + count - 1) / count
  (List.range count).map fun column =>
    let places := (List.range names.size).filter fun place =>
      (if across then place % count else place / rows) == column
    let gap := if column + 1 == count then 0 else 2
    places.foldl (fun most place => max most ((names.getD place "").length + gap)) 3

/-- The most columns that a page is wide enough for; the number bounds them. -/
def columnCount (names : Array Octets) (across : Bool) (width : Nat) : Nat -> Nat
  | 0 => 1
  | count + 1 =>
      let widths := columnWidths names across (count + 1)
      if widths.foldl (· + ·) 0 < width then count + 1
      else columnCount names across width count

/-- The text of a row: the names at some places, in columns that start at some width. -/
def rowText (names : Array Octets) : List (Nat × Nat) -> Nat -> Octets
  | [], _ => "\n"
  | [(place, _)], _ => names.getD place "" ++ "\n"
  | (place, width) :: rest, start =>
      let name := names.getD place ""
      name ++ gap (start + width) width (start + name.length) ++
        rowText names rest (start + width)

/-- Names in columns. -/
def columnLines (width : Nat) (across : Bool) (names : Array Octets) : Octets :=
  if names.isEmpty then ""
  else
    let count := columnCount names across width (min names.size (max 1 (width / 3)))
    let widths := columnWidths names across count
    let rows := (names.size + count - 1) / count
    String.join ((List.range rows).map fun row =>
      let places := (List.range count).map fun column =>
        if across then row * count + column else column * rows + row
      rowText names ((places.zip widths).filter fun (place, _) => place < names.size) 0)

/-- The lines of what is listed together; columns are wide enough for all. -/
def text
    (listing : Listing)
    (all entries : List Listed) : Octets :=
  let items := (listing.ordered entries).map (listing.item (listing.widths all))
  match listing.layout with
  | .commas => commaLines listing.width items 0 ""
  | .columns => columnLines listing.width false items.toArray
  | .rows => columnLines listing.width true items.toArray
  | _ => String.join (items.map (· ++ listing.itemEnd))

/-- What is in a directory, or why it cannot be listed. -/
def read
    (listing : Listing)
    (path : Octets) : Act (Except Fault (List Listed)) := do
  match ← Act.call (.names path) with
  | .error fault => pure (.error fault)
  | .ok names => do
      let dots := if listing.hidden == some true then [".", ".."] else []
      let all := dots ++ names.filter listing.lists
      let seen ← all.mapM fun name => do
        match ← Act.call (.look (childPath path name) listing.follows) with
        | .ok sight => pure (some { name, sight : Listed })
        | .error _ => pure none
      pure (.ok (seen.filterMap fun listed => listed))

/-- The lines of a directory. -/
def directoryText (listing : Listing) (entries : List Listed) : Octets :=
  let total := entries.foldl (fun total listed => total + blockBytes listed.sight) 0
  let head :=
    if listing.layout == .long || listing.blocks then
      s!"total {listing.blockText total}" ++ listing.itemEnd
    else ""
  head ++ listing.text entries entries

/--
Print some directories, each with a heading if asked for; the texts are set
apart by empty lines. The number bounds how deep directories lie within each
other.
-/
def printDirectories
    (listing : Listing)
    (name : Octets)
    (headed : Bool) : Nat -> Bool -> List Octets -> Act Nat
  | 0, _, _ => pure 0
  | _ + 1, _, [] => pure 0
  | depth + 1, apart, path :: rest => do
      match ← listing.read path with
      | .error fault => do
          warn name s!"cannot open directory {Quoted.plain path}: {fault.text}"
          let status ← printDirectories listing name headed depth apart rest
          pure (max status 2)
      | .ok entries => do
          let heading :=
            (if apart then "\n" else "") ++ (if headed then s!"{path}:\n" else "")
          let _ ← emit name (Octets.toBytes (heading ++ listing.directoryText entries))
          let below :=
            if listing.descends then
              ((listing.ordered entries).filter fun listed =>
                listed.sight.kind == .entry .directory && listed.name != "." &&
                  listed.name != "..").map fun listed => childPath path listed.name
            else []
          printDirectories listing name headed depth true (below ++ rest)

/-- What the operands name; what cannot be found is complained about. -/
def lookAtOperands
    (listing : Listing)
    (name : Octets) : List Octets -> Act (List Listed × Nat)
  | [] => pure ([], 0)
  | operand :: rest => do
      let follows := listing.follows || (!listing.asFiles && listing.layout != .long &&
        listing.marks != some true)
      let seen ← do
        match ← Act.call (.look operand follows) with
        | .ok sight => pure (.ok sight)
        | .error fault =>
            if listing.follows then pure (.error fault) else Act.call (.look operand false)
      match seen with
      | .error fault => do
          warn name s!"cannot access {Quoted.word operand}: {fault.text}"
          let (entries, _) ← lookAtOperands listing name rest
          pure (entries, 2)
      | .ok sight => do
          let (entries, status) ← lookAtOperands listing name rest
          pure ({ name := operand, sight } :: entries, status)

/-- The options. -/
def options : OptionTable where
  letters :=
    "aAbBcCdfFgGhHiklLmnNopqQrRsStuUvxX1Z".toList.map (fun letter => (letter, Taking.nothing))
      ++ [('I', .something), ('w', .something), ('T', .something)]
  words :=
    [("all", 'a', .nothing), ("almost-all", 'A', .nothing), ("author", 'k', .nothing),
      ("escape", 'b', .nothing), ("ignore-backups", 'B', .nothing), ("classify", 'F', .perhaps),
      ("color", 'k', .perhaps), ("dereference", 'L', .nothing), ("directory", 'd', .nothing),
      ("file-type", 'F', .nothing), ("format", 'M', .something), ("full-time", 'D', .nothing),
      ("group-directories-first", 'y', .nothing), ("no-group", 'G', .nothing),
      ("human-readable", 'h', .nothing), ("si", 'Y', .nothing), ("hide", 'H', .something),
      ("inode", 'i', .nothing), ("ignore", 'I', .something), ("literal", 'N', .nothing),
      ("numeric-uid-gid", 'n', .nothing), ("quote-name", 'Q', .nothing),
      ("recursive", 'R', .nothing), ("reverse", 'r', .nothing), ("size", 's', .nothing),
      ("sort", 'O', .something), ("time", 'k', .something), ("time-style", 'E', .something),
      ("width", 'w', .something), ("zero", '0', .nothing)]

end Listing

/-- List files and directories. -/
def ls : Program :=
  withOptions Listing.options 2 fun launch given operands => do
    let zone := Zone.ofEnvironment launch.environment
    match Listing.ofOptions { instant := ← Act.call .date, zone } given with
    | .error reason =>
        if reason.startsWith "invalid line" then fail launch.name reason 2
        else misuse launch.name reason 2
    | .ok listing => do
        let named := if operands.isEmpty then ["."] else operands
        let (entries, status) ← listing.lookAtOperands launch.name named
        let (directories, files) := entries.partition fun listed =>
          listed.sight.kind == .entry .directory && !listing.asFiles
        if !files.isEmpty then
          let _ ← emit launch.name (Octets.toBytes (listing.text entries files))
        let paths := (listing.ordered directories).map (·.name)
        let headed := 1 < named.length || listing.descends
        let worst ←
          listing.printDirectories launch.name headed deepest (!files.isEmpty) paths
        pure (max status worst)

end Programs
end CameraFleet
