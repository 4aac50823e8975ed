import CameraFleet.Host.Fault
import CameraFleet.Text.Octets

/-!
# Files

A tree of files. A path is taken apart at slashes and followed from name to
name: every name but the last must lead to a directory, a dot stays where it is,
two dots lead to the directory above, and a link leads to where it points. A
slash at the end asks for a directory.

`Files.locate` follows a path as far as its last name, which need not exist;
everything else is said in terms of it.
-/

namespace CameraFleet
namespace Host

/-- A path as the names on the way from the root. -/
abbrev Path := List Octets

/-- A device. -/
inductive Device
  /-- It is empty and takes everything. -/
  | null
  /-- It holds zeros without end and takes everything. -/
  | zero
  /-- It holds zeros without end and takes nothing. -/
  | full
  deriving Repr, DecidableEq

/-- What stands at a place of the tree. -/
inductive Entry
  /-- A directory. -/
  | directory
  /-- A file. -/
  | file
  /-- A device. -/
  | device (device : Device)
  /-- A link to the path that a text gives. -/
  | link (target : Octets)
  /-- A pipe with a name. -/
  | fifo
  /-- A program that the host can run. -/
  | program
  /-- A terminal that is not there, or another file that cannot be opened. -/
  | unavailable
  deriving Repr, DecidableEq

/-- Something that stands at one or more places of the tree. -/
structure Node where
  /-- What it is. -/
  entry : Entry
  /-- Who may do what with it. -/
  rights : Nat
  /-- When it was last changed, in milliseconds. -/
  changed : Int := 0
  /-- What it holds, if it is a file. -/
  content : ByteArray := .empty

/-- A tree of files. -/
structure Files where
  /-- The number of what stands at each path; the root always is a directory. -/
  entries : List (Path × Nat) := [([], 0)]
  /-- What stands in the tree, by number. -/
  nodes : List (Nat × Node) := [(0, { entry := .directory, rights := 493 })]
  /-- The number for the next node. -/
  next : Nat := 1

namespace Path

/-- The most bytes of a name. -/
def maxName : Nat := 255

/-- The most bytes of a path as a text. -/
def maxText : Nat := 4095

/-- The names of a path's text; a slash at the end asks for a directory, as a last dot does. -/
def names (text : Octets) : List Octets :=
  let parts := (text.splitOn "/").filter fun name => !name.isEmpty
  if text.endsWith "/" && !parts.isEmpty then parts ++ ["."] else parts

/-- A path as a text. -/
def text (path : Path) : Octets :=
  "/" ++ String.intercalate "/" path

/-- Whether a text gives a path from the root. -/
def isAbsolute (text : Octets) : Bool :=
  text.startsWith "/"

/-- Where a path that is given as a text starts. -/
def origin (here : Path) (text : Octets) : Path :=
  if isAbsolute text then [] else here

end Path

namespace Files

/-- A node that cannot be used, in place of one that is not there. -/
def noNode : Node :=
  { entry := .unavailable, rights := 0 }

/-- The node of a number. -/
def node (files : Files) (number : Nat) : Node :=
  (files.nodes.lookup number).getD noNode

/-- What stands at a path. -/
def entry? (files : Files) (path : Path) : Option Entry :=
  (files.entries.lookup path).map fun number => (files.node number).entry

/-- Whether a directory stands at a path. -/
def isDirectory (files : Files) (path : Path) : Bool :=
  files.entry? path == some .directory

/-- The most links that are followed on the way of one path. -/
def maxLinks : Nat := 40

/--
Follow names from a path, with so many links at most. The result is the path of
the last name and what stands there, if anything does; a link in the last place
is followed if asked for.
-/
def walk
    (files : Files)
    (followLast : Bool) :
    Nat -> Path -> List Octets -> Except Fault (Path × Option Entry)
  | _, here, [] => .ok (here, files.entry? here)
  | links, here, name :: rest =>
      if !files.isDirectory here then .error .notDirectory
      else if Path.maxName < name.length then .error .nameTooLong
      else if name == "." then files.walk followLast links here rest
      else if name == ".." then files.walk followLast links here.dropLast rest
      else
        let child := here ++ [name]
        match files.entry? child with
        | none => if rest.isEmpty then .ok (child, none) else .error .missing
        | some (.link target) =>
            if rest.isEmpty && !followLast then .ok (child, some (.link target))
            else
              match links with
              | 0 => .error .endlessLinks
              | links + 1 =>
                  files.walk followLast links (Path.origin here target)
                    (Path.names target ++ rest)
        | some _ => files.walk followLast links child rest
  termination_by links _ names => (links, names.length)

/-- Follow the text of a path from a directory. -/
def locate
    (files : Files)
    (here : Path)
    (text : Octets)
    (followLast : Bool) : Except Fault (Path × Option Entry) :=
  if text.isEmpty then .error .missing
  else if Path.maxText < text.length then .error .nameTooLong
  else files.walk followLast maxLinks (Path.origin here text) (Path.names text)

/-- What the text of a path leads to, and the place where it stands. -/
def find
    (files : Files)
    (here : Path)
    (text : Octets)
    (followLast : Bool) : Except Fault (Path × Entry) := do
  match ← files.locate here text followLast with
  | (path, some entry) => pure (path, entry)
  | (_, none) => .error .missing

/-- The number of what the text of a path leads to. -/
def number
    (files : Files)
    (here : Path)
    (text : Octets)
    (followLast : Bool) : Except Fault Nat := do
  let (path, _) ← files.find here text followLast
  match files.entries.lookup path with
  | some number => pure number
  | none => .error .missing

/-- Change the node of a number. -/
def modify
    (files : Files)
    (number : Nat)
    (change : Node -> Node) : Files :=
  { files with
    nodes := files.nodes.map fun (other, node) =>
      if other == number then (other, change node) else (other, node) }

/-- Note that the directory of a path has changed. -/
def touchAbove
    (files : Files)
    (path : Path)
    (time : Int) : Files :=
  match files.entries.lookup path.dropLast with
  | some number => files.modify number ({ · with changed := time })
  | none => files

/-- Put a node at a path. -/
def put
    (files : Files)
    (path : Path)
    (node : Node) : Files :=
  { entries := (path, files.next) :: files.entries.filter (·.1 != path)
    nodes := (files.next, node) :: files.nodes
    next := files.next + 1 }

/-- Let the node of a number stand at a path, too. -/
def join
    (files : Files)
    (path : Path)
    (number : Nat) : Files :=
  { files with entries := (path, number) :: files.entries.filter (·.1 != path) }

/-- Take away what stands at a path. -/
def remove (files : Files) (path : Path) : Files :=
  { files with entries := files.entries.filter (·.1 != path) }

/-- The content of a file. -/
def content (files : Files) (number : Nat) : ByteArray :=
  (files.node number).content

/-- Replace the content of a file at a time. -/
def setContent
    (files : Files)
    (number : Nat)
    (bytes : ByteArray)
    (time : Int) : Files :=
  files.modify number ({ · with content := bytes, changed := time })

/-- Make the directories on the way to a path, where there is nothing yet. -/
def createDirectories
    (files : Files)
    (path : Path) : Files :=
  (List.range path.length).foldl (fun files count =>
    let above := path.take (count + 1)
    if (files.entry? above).isSome then files
    else files.put above { entry := .directory, rights := 493 }) files

/-- At how many places a node stands. -/
def linkCount (files : Files) (number : Nat) : Nat :=
  match files.entries.find? (·.2 == number) with
  | none => 0
  | some (path, _) =>
      if (files.node number).entry == .directory then
        2 + (files.entries.filter fun (below, _) =>
          below.length == path.length + 1 && path.isPrefixOf below &&
            files.entry? below == some .directory).length
      else (files.entries.filter (·.2 == number)).length

/-- The names in a directory, in no particular order. -/
def namesIn (files : Files) (directory : Path) : List Octets :=
  files.entries.filterMap fun (path, _) =>
    if path.length == directory.length + 1 && directory.isPrefixOf path then path.getLast?
    else none

/-- What a program starts with on disk. -/
def programStart : ByteArray := "\x7fELF".toUTF8

/-- The whole content of a file that has an end. -/
def read
    (files : Files)
    (here : Path)
    (text : Octets) : Except Fault ByteArray := do
  let number ← files.number here text true
  let node := files.node number
  match node.entry with
  | .file => pure node.content
  | .device _ => pure .empty
  | .program => pure programStart
  | .unavailable | .fifo => .error .noDevice
  | .directory | .link _ => .error .isDirectory

end Files
end Host
end CameraFleet
