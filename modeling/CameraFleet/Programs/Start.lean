import CameraFleet.Programs.Backward
import CameraFleet.Programs.Batch
import CameraFleet.Programs.Blocks
import CameraFleet.Programs.Bytewise
import CameraFleet.Programs.Checksum
import CameraFleet.Programs.Condition
import CameraFleet.Programs.Copy
import CameraFleet.Programs.Count
import CameraFleet.Programs.Date
import CameraFleet.Programs.Difference
import CameraFleet.Programs.Dump
import CameraFleet.Programs.Edit
import CameraFleet.Programs.Expression
import CameraFleet.Programs.Fields
import CameraFleet.Programs.Fill
import CameraFleet.Programs.Filter
import CameraFleet.Programs.Find
import CameraFleet.Programs.Listing
import CameraFleet.Programs.Merge
import CameraFleet.Programs.Numbering
import CameraFleet.Programs.Print
import CameraFleet.Programs.Records
import CameraFleet.Programs.Sequence
import CameraFleet.Programs.Sort
import CameraFleet.Programs.Status
import CameraFleet.Programs.Surroundings
import CameraFleet.Programs.Tabs
import CameraFleet.Programs.Touch
import CameraFleet.Programs.Translate
import CameraFleet.Programs.Tree
import CameraFleet.Programs.Waiting
import CameraFleet.Shell.Extended.Session

/-!
# Starting programs

A path leads to a program of the host, or to a file that can be run: a script,
whose first line may name the program that reads it. Other scripts are read by
the shell.
-/

namespace CameraFleet
namespace Programs

open Host

/-- The program of a name, which may start others. -/
def program? (starter : Starter) (name : Octets) : Option Program :=
  match name with
  | "[" => some bracket
  | "awk" => some (awk starter)
  | "b2sum" => some b2sum
  | "basename" => some basename
  | "bash" => some (Shell.Extended.session starter)
  | "cat" => some cat
  | "chmod" => some chmod
  | "cksum" => some cksum
  | "cmp" => some cmp
  | "comm" => some comm
  | "cp" => some cp
  | "cut" => some cut
  | "dash" => some (Shell.session starter)
  | "date" => some date
  | "dd" => some dd
  | "diff" => some diff
  | "dirname" => some dirname
  | "echo" => some echo
  | "env" => some (env starter)
  | "expand" => some expand
  | "expr" => some expr
  | "false" => some refuse
  | "find" => some (Find.find starter)
  | "fmt" => some fmt
  | "fold" => some fold
  | "grep" => some grep
  | "head" => some head
  | "id" => some account
  | "join" => some join
  | "ln" => some ln
  | "ls" => some ls
  | "mawk" => some (awk starter)
  | "md5sum" => some (Checksum.program Checksum.md5)
  | "mkdir" => some mkdir
  | "mktemp" => some mktemp
  | "mv" => some mv
  | "nice" => some (nice starter)
  | "nl" => some nl
  | "nohup" => some (nohup starter)
  | "od" => some od
  | "paste" => some paste
  | "printenv" => some printenv
  | "printf" => some printf
  | "pwd" => some pwd
  | "readlink" => some readlink
  | "realpath" => some realpath
  | "rev" => some rev
  | "rm" => some rm
  | "rmdir" => some rmdir
  | "sed" => some (sed starter)
  | "seq" => some seq
  | "sha1sum" => some (Checksum.program Checksum.sha1)
  | "sha224sum" => some (Checksum.program Checksum.sha224)
  | "sha256sum" => some (Checksum.program Checksum.sha256)
  | "sha384sum" => some (Checksum.program Checksum.sha384)
  | "sha512sum" => some (Checksum.program Checksum.sha512)
  | "sleep" => some sleep
  | "sort" => some sort
  | "stat" => some stat
  | "sum" => some sum
  | "tac" => some tac
  | "tail" => some tail
  | "tee" => some tee
  | "test" => some test
  | "timeout" => some (timeout starter)
  | "touch" => some touch
  | "tr" => some tr
  | "true" => some succeed
  | "uname" => some uname
  | "unexpand" => some unexpand
  | "uniq" => some uniq
  | "wc" => some wc
  | "whoami" => some whoami
  | "xargs" => some (xargs starter)
  | "yes" => some yes
  | _ => none

/-- What the first line of a script says about the program that reads it. -/
inductive Reading
  /-- The shell reads it. -/
  | shell
  /-- A program reads it, which may get an argument. -/
  | program (path : Octets) (argument : Option Octets)
  deriving Repr, DecidableEq

/-- Whether a character separates the words of the first line of a script. -/
def isLineBlank (c : Char) : Bool :=
  c == ' ' || c == '\t'

/-- What the first line of a script says. -/
def readingOf (text : Octets) : Reading :=
  match text.toList with
  | '#' :: '!' :: rest =>
      let line := (rest.takeWhile (· != '\n')).dropWhile isLineBlank
      let path := line.takeWhile fun c => !isLineBlank c
      let after := (line.drop path.length).dropWhile isLineBlank
      let argument := (after.reverse.dropWhile isLineBlank).reverse
      if path.isEmpty then .shell
      else
        .program (String.ofList path)
          (if argument.isEmpty then none else some (String.ofList argument))
  | _ => .shell

/-- The bytes at the start of a script that say how it is read. -/
def scriptStart : Nat := 256

/-- The text at the start of a file. -/
def startOf (path : Octets) : Act Octets := do
  match ← Act.call (.open path .reading) with
  | .error _ => pure ""
  | .ok descriptor => do
      let read ← Act.call (.read descriptor scriptStart)
      let _ ← Act.call (.close descriptor)
      match read with
      | .ok bytes => pure (Octets.ofBytes bytes)
      | .error _ => pure ""

/-- The path of the shell. -/
def shellPath : Octets := "/bin/sh"

/-- The most bytes of an argument. -/
def longestArgument : Nat := 131071

/-- Become what stands at a path; the number bounds how often a process becomes something else. -/
def start : Nat -> Starter
  | 0 => fun _ _ => pure .endlessLinks
  | depth + 1 => fun path launch => do
      match ← Act.call (.look path true), ← Act.call (.resolve path) with
      | .error fault, _ | _, .error fault => pure fault
      | .ok sight, .ok place => do
          if launch.args.any fun arg => longestArgument < arg.length then pure .tooMuch
          else
            match sight.kind with
            | .entry .program =>
                match program? (start depth) (lastName place) with
                | some program => do
                    let status ← program launch
                    Act.exit status
                | none => pure .denied
            | .entry .file => do
                if !sight.isRunnable then return .denied
                match readingOf (← startOf path) with
                | .shell =>
                    start depth shellPath { launch with name := "sh", args := path :: launch.args }
                | .program reader argument =>
                    start depth reader
                      { launch with name := reader, args := argument.toList ++ path :: launch.args }
            | _ => pure .denied

/-- Become what stands at a path. -/
def starter : Starter :=
  start manyTurns

end Programs
end CameraFleet
