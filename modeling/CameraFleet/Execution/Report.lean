import CameraFleet.Command
import CameraFleet.Host.Signal
import CameraFleet.Text.Literal
import CameraFleet.Text.Utf8
import CameraFleet.Timer
import CameraFleet.Worker.Payload

/-!
# Reporting a run

A command may take a limited time and write a limited output; when either limit
is passed nobody listens any more and it is asked to end. What counts then is
how it ends: after its time was up a status is reported as any other, but an end
by a signal is an error.

Who runs the command is a parameter: a host says how it ended, and what could be
heard of it.
-/

namespace CameraFleet
namespace Execution

open Host

/-- The most bytes that are kept of either output. -/
def maxOutput : Nat := 1048576

/-- The time that a run may take, in milliseconds; zero sets no limit. -/
def limitOf (timeout : Nat) : Option Nat :=
  if timeout = 0 then none else some (Timer.delay timeout)

/-! ## Starting -/

/-- What is wrong with an argument in which there is a zero byte. -/
def zeroFault? (subject kind text : String) : Option String :=
  if text.contains '\x00' then
    some s!"The {subject} must be {kind} without null bytes. Received {Literal.shown text}"
  else none

/-- The number from which on the digits of a number are shown in groups. -/
def groupedFrom : Nat := 4294967296

/-- Digits in groups of three, counted from the end. -/
def grouped (digits : List Char) : List Char :=
  (digits.zipIdx.flatMap fun (digit, place) =>
    let left := digits.length - place
    if place != 0 && left % 3 == 0 then ['_', digit] else [digit])

/-- A number as it is shown in a message about a value. -/
def shownNumber (n : Int) : String :=
  let digits := (toString n.natAbs).toList
  let digits := if groupedFrom < n.natAbs then grouped digits else digits
  String.ofList (if n < 0 then '-' :: digits else digits)

/-- Why nobody would even try to start a command that may take some time, if so. -/
def refusal? (timeout : Int) (command : Command) : Option String :=
  let argument (entry : String × Nat) : Option String :=
    zeroFault? s!"argument 'args[{entry.2}]'" "a string" entry.1
  if timeout < 0 then
    some ("The value of \"timeout\" is out of range. It must be an unsigned integer. " ++
      s!"Received {shownNumber timeout}")
  else if command.program.isEmpty then some "The argument 'file' cannot be empty. Received ''"
  else
    ((zeroFault? "argument 'file'" "a string" command.program).or
      (command.args.zipIdx.findSome? argument)).or
      (command.cwd.bind (zeroFault? "property 'options.cwd'" "a string, Uint8Array, or URL"))

/-- How it is said that a command could not be started. -/
def startFailure (program : String) : Fault -> String
  | .missing => s!"spawn {program} ENOENT"
  | .denied => s!"spawn {program} EACCES"
  | fault => s!"spawn {fault.code}"

/-! ## Running -/

/-- Why nobody listens to a command any more. -/
inductive Cut
  /-- Its time was up. -/
  | late
  /-- It wrote too much. -/
  | loud
  deriving Repr, DecidableEq

/-- How a command ended on a host. -/
structure End where
  /-- Why nobody listened any more, if so. -/
  cut : Option Cut
  /-- How it ended; none if it was never seen to end. -/
  ending : Option Ending
  /-- What it wrote to its output. -/
  out : Array ByteArray
  /-- What it wrote to its error output. -/
  err : Array ByteArray

/-- A host: it runs a command within a time, if it can start it. -/
abbrev Runs : Type := Option Nat -> Command -> Except Fault End

/-! ## Results -/

/-- The bytes that are kept of an output. -/
def kept (parts : Array ByteArray) : List UInt8 :=
  ((parts.foldl ByteArray.append .empty).extract 0 maxOutput).toList

/-- The text of an output; if it was cut, an unfinished character at its end is left out. -/
def textOf
    (wasCut : Bool)
    (parts : Array ByteArray) : String :=
  let reading := (kept parts).foldl Utf8.Reading.push {}
  String.ofList (if wasCut then reading.reversed.reverse else reading.text)

/-- The result of a command that could not be started. -/
def cannotStart (reason : String) : Worker.RunResult :=
  { exitCode := none, output := "", error := some reason }

/-- The result of a command that has ended. -/
def conclude
    (timeout : Nat)
    (command : Command)
    (ended : End) : Worker.RunResult :=
  let out := textOf ended.cut.isSome ended.out
  let err := textOf ended.cut.isSome ended.err
  let output := out ++ err
  match ended.cut, ended.ending with
  | _, some (.unstarted fault) => cannotStart (startFailure command.program fault)
  | some .loud, _ =>
      { exitCode := none, output
        error := some s!"output exceeded {maxOutput} bytes", truncated := true }
  | _, some (.exited status) => { exitCode := some status, output }
  | some .late, _ =>
      { exitCode := none, output, error := some s!"timed out after {timeout}ms" }
  | none, _ =>
      let words := String.intercalate " " (command.program :: command.args)
      { exitCode := none, output, error := some s!"Command failed: {words}\n{err}" }

/-- Run a command on a host for at most so many milliseconds; zero sets no limit. -/
def runOn
    (host : Runs)
    (timeout : Int)
    (command : Command) : Worker.RunResult :=
  match refusal? timeout command with
  | some reason => cannotStart reason
  | none =>
      match host (limitOf timeout.toNat) command with
      | .error fault => cannotStart (startFailure command.program fault)
      | .ok ended => conclude timeout.toNat command ended

end Execution
end CameraFleet
