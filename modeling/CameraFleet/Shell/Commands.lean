import CameraFleet.Programs.Format
import CameraFleet.Shell.Condition
import CameraFleet.Shell.Description
import CameraFleet.Shell.Input
import CameraFleet.Shell.Jobs
import CameraFleet.Shell.Places
import CameraFleet.Shell.Settings

/-!
# Commands of the shell

The shell carries out some commands by itself. Those that run other commands are
part of its interpreter; all others are here.
-/

namespace CameraFleet
namespace Shell

open Host
open Programs

/-- Some texts with their escapes replaced, and whether an escape ends them. -/
def echoed : List Octets -> Octets × Bool
  | [] => ("", false)
  | text :: rest =>
      match Escape.replaceAll .shellOperand text with
      | (replaced, some _) => (replaced, true)
      | (replaced, none) =>
          if rest.isEmpty then (replaced, false)
          else
            let (others, ends) := echoed rest
            (replaced ++ " " ++ others, ends)

/-- Print some texts with blanks between them. -/
def echo (args : List Octets) : Sh Nat := do
  let (texts, ending) :=
    match args with
    | "-n" :: rest => (rest, "")
    | args => (args, "\n")
  let (text, ends) := echoed texts
  Sh.print (if ends then text else text ++ ending)
  pure 0

/-- What is wrong with a directive of the shell's own format command. -/
def directiveFault? (written : DirectiveText) (shown : Octets) : Option Octets :=
  match written.rest with
  | [] => some "missing format character"
  | conversion :: _ =>
      let known :=
        ['b', 'c', 's', 'd', 'i', 'o', 'u', 'x', 'X', 'a', 'A', 'e', 'E', 'f', 'F', 'g', 'G']
      if known.contains conversion then none else some s!"{shown}: invalid directive"

/-- How the shell's own format command understands formats. -/
def formatStyle : FormatStyle where
  format := .shellFormat
  operand := .shellOperand
  bits := 53
  noNumber := fun text => s!"{text}: expected numeric value"
  partly := fun text => s!"{text}: not completely converted"
  tooLarge := fun text => s!"{text}: Numerical result out of range"
  isStrict := false
  directiveFault? := directiveFault?

/-- Print by a format. -/
def printf (args : List Octets) : Sh Nat := do
  match ← operandsOf args with
  | [] => Sh.fail "usage: printf format [arg ...]"
  | format :: operands => do
      let printed := Printing.run formatStyle format operands
      for (text, _) in printed.complaints.reverse do
        Sh.warn text
      Sh.print printed.output
      match printed.ended with
      | some (.wrong reason) => Sh.fail reason
      | _ => pure (if printed.complaints.isEmpty then 0 else 1)

/-- The condition command with a closing bracket. -/
def bracket (args : List Octets) : Sh Nat := do
  if args.getLast? == some "]" then Condition.status args.dropLast
  else Sh.fail "missing ]"

/-- Say what is done when signals come, or show it. -/
def trap (args : List Octets) : Sh Nat := do
  match ← operandsOf args with
  | [] => do
      let traps := (← get).traps
      for (number, text) in traps.mergeSort fun a b => decide (a.1 ≤ b.1) do
        Sh.print s!"trap -- {quoteWord text} {signalName number}\n"
      pure 0
  | first :: rest => do
      let isReset := rest.isEmpty || (natural? first).any (· ≤ Signal.greatest)
      if isReset then setTraps none (first :: rest)
      else if first == "-" then setTraps none rest
      else setTraps (some first) rest

/-- Leave loops, or go on with them. -/
def leaveLoops
    (goesOn : Bool)
    (args : List Octets) : Sh Nat := do
  let count ←
    match args with
    | [] => pure 1
    | arg :: _ => do
        let count ← Sh.numberOf arg
        if count = 0 then Sh.fail s!"Illegal number: {arg}" else pure count
  let loops := min count (← get).loops
  if 0 < loops then
    modify ({ · with skip := some (if goesOn then .continuing loops else .leaving loops) })
  pure 0

/-- Leave a function. -/
def leaveFunction (args : List Octets) : Sh Nat := do
  match args with
  | [] => do
      modify ({ · with skip := some (.returning false) })
      pure (← get).status
  | arg :: _ => do
      let status ← Sh.numberOf arg
      modify ({ · with skip := some (.returning true) })
      pure status

/-- End the shell. -/
def exitCommand (args : List Octets) : Sh Nat := do
  match args with
  | [] => Sh.jump .exit
  | arg :: _ => do
      let status ← Sh.numberOf arg
      modify ({ · with saved := some status })
      Sh.jump .exit

/-- Show the time that has been used, which is none. -/
def showTimes : Sh Nat := do
  let line := "0m0.000000s 0m0.000000s\n"
  Sh.print (line ++ line)
  pure 0

/-- What a command of the shell does that runs no other commands. -/
def command? (name : Octets) : Option (List Octets -> Sh Nat) :=
  match name with
  | ":" | "true" => some fun _ => pure 0
  | "false" => some fun _ => pure 1
  | "[" => some bracket
  | "alias" => some aliasCommand
  | "bg" | "fg" => some resumeJob
  | "break" => some (leaveLoops false)
  | "cd" | "chdir" => some changePlace
  | "continue" => some (leaveLoops true)
  | "echo" => some echo
  | "exit" => some exitCommand
  | "export" =>
      some (markCommand name ({ · with exported := true }) (·.exported))
  | "getopts" => some nextOption
  | "hash" => some hash
  | "jobs" => some showJobs
  | "kill" => some kill
  | "local" => some localCommand
  | "printf" => some printf
  | "pwd" => some showPlace
  | "read" => some readCommand
  | "readonly" =>
      some (markCommand name ({ · with fixed := true }) (·.fixed))
  | "return" => some leaveFunction
  | "set" => some setCommand
  | "shift" => some shift
  | "test" => some Condition.status
  | "times" => some fun _ => showTimes
  | "trap" => some trap
  | "type" => some describeEach
  | "ulimit" => some changeLimit
  | "umask" => some changeMask
  | "unalias" => some unalias
  | "unset" => some unset
  | "wait" => some wait
  | _ => none

end Shell
end CameraFleet
