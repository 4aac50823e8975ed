import CameraFleet.Programs.Directive
import CameraFleet.Programs.Escape
import CameraFleet.Programs.Listing

/-!
# The status of files

What is known of a file is shown in a format, each directive of which stands for
one thing.
-/

namespace CameraFleet
namespace Programs

open Host

namespace Status

/-- What a file is, in words. -/
def kindText (sight : Sight) : Octets :=
  match sight.kind with
  | .entry .directory => "directory"
  | .entry (.link _) => "symbolic link"
  | .entry (.device _) | .entry .unavailable => "character special file"
  | .pipe | .entry .fifo => "fifo"
  | .connection => "socket"
  | .entry .file => if sight.size = 0 then "regular empty file" else "regular file"
  | .entry .program => "regular file"

/-- The rights together with the bits that say what a file is. -/
def mode (sight : Sight) : Nat :=
  let bits :=
    match sight.kind with
    | .entry .directory => 4
    | .entry (.link _) => 10
    | .entry (.device _) | .entry .unavailable => 2
    | .pipe | .entry .fifo => 1
    | .connection => 12
    | _ => 8
  bits * 4096 + sight.rights

/-- The format of dates. -/
def dateFormat : Octets := "%Y-%m-%d %H:%M:%S.%N %z"

/-- A name, and for a link what it leads to; they may be quoted only if need be. -/
def quotedName
    (always : Bool)
    (path : Octets)
    (sight : Sight) : Octets :=
  let quoted (text : Octets) : Octets :=
    if always then Quoted.word text else Quoted.wordIfNeeded text
  match sight.kind with
  | .entry (.link target) => s!"{quoted path} -> {quoted target}"
  | _ => quoted path

/-- What a directive stands for. -/
inductive Value
  /-- A text. -/
  | text (text : Octets)
  /-- A number, with the letter for how its digits are written. -/
  | number (letter : Char) (value : Nat)
  deriving Repr, DecidableEq

/-- A decimal number. -/
def decimal (value : Nat) : Option Value :=
  some (.number 'd' value)

/-- What a directive stands for, if there is such a directive. -/
def value?
    (always : Bool)
    (zone : Zone)
    (path : Octets)
    (sight : Sight)
    (letter : Char) : Option Value :=
  let moment : Moment := { instant := sight.changed, zone }
  match letter with
  | 'a' => some (.number 'o' sight.rights)
  | 'A' => some (.text (Listing.rights sight))
  | 'b' => decimal (Listing.blockBytes sight / 512)
  | 'B' => decimal 512
  | 'C' => some (.text "?")
  | 'd' => decimal 50
  | 'D' => some (.number 'x' 50)
  | 'f' => some (.number 'x' (mode sight))
  | 'F' => some (.text (kindText sight))
  | 'g' | 'u' => decimal 0
  | 'G' | 'U' => some (.text "root")
  | 'h' => decimal sight.links
  | 'i' => decimal sight.number
  | 'm' => some (.text "/")
  | 'n' => some (.text path)
  | 'N' => some (.text (quotedName always path sight))
  | 'o' => decimal 4096
  | 's' => decimal sight.size
  | 't' | 'T' => some (.number 'x' 0)
  | 'w' | 'x' | 'y' | 'z' => some (.text (moment.format dateFormat))
  | 'W' | 'X' | 'Y' | 'Z' => some (.text (toString moment.seconds))
  | _ => none

/-- A format with its directives replaced; the number bounds the steps. -/
def formatOn
    (value? : Char -> Option Value)
    (escapes : Bool) : Nat -> List Char -> Octets
  | 0, _ | _, [] => ""
  | fuel + 1, '%' :: rest =>
      let read := DirectiveText.read ['#', '-', '+', ' ', '0', '\''] rest
      match read.rest with
      | [] => "%" ++ String.ofList rest
      | letter :: after =>
          let directive : Directive :=
            { flags := read.flags, width := (read.width).getD 0
              precision := read.precision.join, conversion := letter }
          let text :=
            match value? letter with
            | some (.text text) => directive.text text
            | some (.number letter n) => { directive with conversion := letter }.integer n
            | none => if letter == '%' then "%" else "?"
          text ++ formatOn value? escapes fuel after
  | fuel + 1, c :: rest =>
      if c == '\\' && escapes then
        match Escape.read .format rest with
        | (.text text, after) => text ++ formatOn value? escapes fuel after
        | (_, after) => formatOn value? escapes fuel after
      else String.singleton c ++ formatOn value? escapes fuel rest

/-- The format that is used if none is given. -/
def usualFormat : Octets :=
  "  File: %N\n" ++ "  Size: %-10s\tBlocks: %-10b IO Block: %-6o %F\n" ++
    "Device: 0,%d\tInode: %-11i Links: %h\n" ++
    "Access: (%04a/%10.10A)  Uid: (%5u/%8U)   Gid: (%5g/%8G)\n" ++
    "Access: %x\nModify: %y\nChange: %z\n Birth: %w\n"

/-- The format that is used for short lines. -/
def shortFormat : Octets := "%n %s %b %f %u %g %D %i %h %t %T %X %Y %Z %W %o\n"

end Status

/-- Show the status of files. -/
def stat : Program :=
  withOptions
    { letters :=
        [('c', .something), ('f', .nothing), ('L', .nothing), ('t', .nothing)]
      words :=
        [("format", 'c', .something), ("printf", 'p', .something), ("dereference", 'L', .nothing),
          ("file-system", 'f', .nothing), ("terse", 't', .nothing), ("cached", 'C', .something)] } 1
    fun launch given operands => do
      let zone := Zone.ofEnvironment launch.environment
      let (format, always, escapes, lineEnd) :=
        match given.reverse.find? fun option => option.letter == 'c' || option.letter == 'p' with
        | some { letter := 'c', argument } => (argument.getD "", true, false, "\n")
        | some { argument, .. } => (argument.getD "", true, true, "")
        | none =>
            (if isGiven given 't' then Status.shortFormat else Status.usualFormat, false, false, "")
      let tellOf (path : Octets) : Act Bool := do
        let seen ←
          if path == "-" then Act.call (.lookAt 0)
          else Act.call (.look path (isGiven given 'L'))
        match seen with
        | .error fault => refuseFor launch.name s!"cannot statx {Quoted.plain path}" fault
        | .ok sight =>
            let text :=
              Status.formatOn (Status.value? always zone path sight) escapes (format.length + 1)
                format.toList
            emit launch.name (Octets.toBytes (text ++ lineEnd))
      if operands.isEmpty then misuse launch.name "missing operand" 1
      else forEachOperand tellOf operands

end Programs
end CameraFleet
