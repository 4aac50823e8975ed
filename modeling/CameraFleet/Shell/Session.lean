import CameraFleet.Shell.Interpreter

/-!
# Shell sessions

A shell takes options, and then its script: from an argument, from a file, or
from its input. The arguments after that are the arguments of the script.
-/

namespace CameraFleet
namespace Shell

open Host
open Programs

/-- The parameters that every shell has. -/
def usualParameters (parent : Nat) : List (Octets × Octets) :=
  [("OPTIND", "1"), ("PS1", "# "), ("PS2", "> "), ("PS4", "+ "), ("IFS", " \t\n"),
    ("PPID", toString parent)]

/-- The state of a shell that knows its environment only. -/
def freshState
    (launch : Launch)
    (process parent : Nat) : State :=
  let known := (usualParameters parent).map fun (name, value) =>
    (name, ({ value := some value } : Binding))
  let start : State :=
    { name := launch.name, process, bindings := ("PATH", { value := some usualDirectories }) ::
        known }
  launch.environment.foldl (fun state (name, value) =>
    let isOwn := name == "IFS" || name == "OPTIND" || name == "PPID"
    if isName name && !isOwn then state.bind name { value := some value, exported := true }
    else state) start

/-- Find out where the shell is; the environment may say how it came there. -/
def findPlace : Sh Unit := do
  let physical ← physicalPlace
  let told := ((← get).value? "PWD").getD ""
  let place ← do
    if told.startsWith "/" then
      match ← Sh.call (.resolve told) with
      | .ok path => pure (if path == physical then told else physical)
      | .error _ => pure physical
    else pure physical
  arrive place false

/-- Run the script that is the next argument. -/
def runArgument
    (starter : Starter)
    (fromInput : Bool)
    (args : List Octets) : Sh Unit := do
  match args with
  | [] => Sh.fail "-c requires an argument"
  | script :: rest => do
      match rest with
      | [] => setArgs []
      | name :: args => do
          modify ({ · with name })
          setArgs args
      let _ ← runText starter manyTurns { last := !fromInput } script

/-- Run the script that is read from the input. -/
def runInput (starter : Starter) : Sh Unit := do
  match ← Sh.act (readAll 0) with
  | .ok bytes => do
      let _ ← runText starter manyTurns {} (Octets.ofBytes bytes)
  | .error _ => pure ()

/-- Run the script that is in a file. -/
def runFile
    (starter : Starter)
    (path : Octets)
    (args : List Octets) : Sh Unit := do
  let text ← readScript path
  modify ({ · with name := path })
  setArgs args
  let _ ← runText starter manyTurns {} text

/-- Run the script that the arguments mean. -/
def runArguments
    (starter : Starter)
    (args : List Octets) : Sh Unit := do
  findPlace
  let (left, hasScript, _) ← setGroups true (args.length + 1) args false
  let fromInput := (← get).has 's'
  if hasScript then
    runArgument starter fromInput left
    if fromInput then runInput starter
  else
    match left, fromInput with
    | path :: rest, false => runFile starter path rest
    | rest, _ => do
        setOption 's' true
        setArgs rest
        runInput starter

/-- A shell. -/
def session (starter : Starter) : Program := fun launch => do
  let (process, parent) ← Act.call .identity
  let whole : Sh Nat := do
    let jump ← Sh.attempt (runArguments starter launch.args)
    conclude starter manyTurns
      (match jump with
      | .ok () => none
      | .error jump => some jump)
  let (result, state) ← (whole.run).run (freshState launch process parent)
  pure (match result with
    | .ok status => status
    | .error _ => state.status)

end Shell
end CameraFleet
