import CameraFleet.Programs.Search
import CameraFleet.Shell.State

/-!
# Looking up commands

The first word of a command names a function, a command of the shell, or a
program, which is looked for in some directories.
-/

namespace CameraFleet
namespace Shell

open Host

/-- The commands of the shell that are not special. -/
def ordinaryCommands : List Octets :=
  ["[", "alias", "bg", "cd", "chdir", "command", "echo", "false", "fg", "getopts", "hash",
    "jobs", "kill", "printf", "pwd", "read", "test", "true", "type", "ulimit", "umask",
    "unalias", "wait"]

/-- The commands of the shell whose arguments may be assignments. -/
def assigningCommands : List Octets :=
  ["export", "local", "readonly"]

/-- What the name of a command stands for. -/
inductive Meaning
  /-- A command of the shell; a mistake in a special one ends a script. -/
  | command (special : Bool)
  /-- A function. -/
  | function (function : Function)
  /-- A program. -/
  | program

/-- What a name stands for; functions may be left out. -/
def State.meaning
    (state : State)
    (functions : Bool)
    (name : Octets) : Meaning :=
  if name.contains '/' then .program
  else
    match if functions then state.functions.lookup name else none with
    | some function => .function function
    | none =>
        if specialCommands.contains name then .command true
        else if ordinaryCommands.contains name then .command false
        else .program

/-- The directories in which programs usually are. -/
def usualDirectories : Octets :=
  "/usr/local/sbin:/usr/local/bin:/usr/sbin:/usr/bin:/sbin:/bin"

/-- The path of a program; a name with a slash is a path. -/
def searchProgram
    (directories : Option Octets)
    (name : Octets) : Sh (Except Fault Octets) := do
  if name.contains '/' then pure (.ok name)
  else
    match directories with
    | none => pure (.error .missing)
    | some text => Sh.act (Programs.searchDirectories name .missing (text.splitOn ":"))

/-- Why a program cannot be run. -/
def runFaultText : Fault -> String
  | .missing | .notDirectory => "not found"
  | fault => fault.text

/-- A text in quotes, so that it is one word of a script. -/
def quoteRuns : Nat -> List Char -> List Char
  | 0, _ => []
  | fuel + 1, chars =>
      let plain := chars.takeWhile (· != '\'')
      let rest := chars.dropWhile (· != '\'')
      let quotes := rest.takeWhile (· == '\'')
      let after := rest.dropWhile (· == '\'')
      let done := '\'' :: plain ++ ['\'']
      if quotes.isEmpty then done
      else
        let done := done ++ '"' :: quotes ++ ['"']
        if after.isEmpty then done else done ++ quoteRuns fuel after

/-- A text in quotes. -/
def quoteWord (text : Octets) : Octets :=
  String.ofList (quoteRuns (text.length + 1) text.toList)

end Shell
end CameraFleet
