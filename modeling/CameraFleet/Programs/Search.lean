import CameraFleet.Programs.Basic

/-!
# Looking for programs and running them

A program is given by its path, or by a name that is looked for in some
directories. A program may run another one and wait for its end.
-/

namespace CameraFleet
namespace Programs

open Host

/-- Whether what can be seen is a program, or a file that can be run. -/
def isRunnable (sight : Sight) : Bool :=
  match sight.kind with
  | .entry .program => true
  | .entry .file => sight.isRunnable
  | _ => false

/-- The path of a name in a directory. -/
def inDirectory (directory name : Octets) : Octets :=
  if directory.isEmpty then name
  else if directory.endsWith "/" then directory ++ name
  else directory ++ "/" ++ name

/-- The first path of a name in some directories at which there is something to be run. -/
def searchDirectories
    (name : Octets)
    (fault : Fault) : List Octets -> Act (Except Fault Octets)
  | [] => pure (.error fault)
  | directory :: rest => do
      let path := inDirectory directory name
      match ← Act.call (.look path true) with
      | .error .missing | .error .notDirectory => searchDirectories name fault rest
      | .error other => searchDirectories name other rest
      | .ok sight =>
          if isRunnable sight then pure (.ok path) else searchDirectories name .denied rest

/-- The directories in which programs are looked for if the environment names none. -/
def defaultDirectories : Octets := "/bin:/usr/bin"

/-- Become the program of a name, which is looked for in the directories of the environment. -/
def startNamed
    (starter : Starter)
    (launch : Launch) : Act Fault := do
  if launch.name.isEmpty then pure .missing
  else if launch.name.contains '/' then starter launch.name launch
  else if Path.maxName < launch.name.length then pure .nameTooLong
  else
    let directories := (launch.environment.lookup "PATH").getD defaultDirectories
    match ← searchDirectories launch.name .missing (directories.splitOn ":") with
    | .ok path => starter path launch
    | .error fault => pure fault

/-- The status of a program that cannot start another one. -/
def failureStatus : Fault -> Nat
  | .missing => 127
  | _ => 126

/-- Become another program, or complain and fail. -/
def startOr
    (starter : Starter)
    (launch : Launch)
    (complaint : Fault -> Octets) : Act Nat := do
  let fault ← startNamed starter launch
  Act.complain (complaint fault)
  pure (failureStatus fault)

/-- Wait for a child, whatever signals come; the number bounds the attempts. -/
def awaitChild (child : Nat) : Nat -> Act Ending
  | 0 => pure (.exited 0)
  | turns + 1 => do
      match ← Act.call (.await (some child) .full) with
      | .ended _ ending => pure ending
      | .childless => pure (.exited 0)
      | _ => awaitChild child turns

/-- Do something in a copy of the process and wait for its end. -/
def inCopy (body : Act Nat) : Act Ending := do
  match ← Act.call .fork with
  | none => do
      let status ← body
      Act.exit status
  | some child => awaitChild child manyTurns

/-- Run a program to its end; it may find nothing on its input. -/
def runChild
    (starter : Starter)
    (launch : Launch)
    (hasInput : Bool)
    (complaint : Fault -> Octets) : Act Ending :=
  inCopy do
    if !hasInput then
      match ← Act.call (.open "/dev/null" .reading) with
      | .ok descriptor => do
          let _ ← Act.call (.assign descriptor 0)
          let _ ← Act.call (.close descriptor)
      | .error _ => pure ()
    startOr starter launch complaint

end Programs
end CameraFleet
