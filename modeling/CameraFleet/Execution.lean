import CameraFleet.Execution.Report
import CameraFleet.Host.Machine
import CameraFleet.Host.Standard
import CameraFleet.Programs.Start

/-!
# A machine in memory as a host

Every command runs on a machine of its own, which stands in for the operating
system where the program is run without one. A run is over when the command has
ended and nothing that it has started can still be heard.
-/

namespace CameraFleet
namespace Execution

open Host

/-- The environment of every command. -/
def environment : List (Octets × Octets) :=
  [("PATH", "/usr/local/sbin:/usr/local/bin:/usr/sbin:/usr/bin:/sbin:/bin"), ("HOME", "/root")]

/-- The directory of a command that names none. -/
def usualDirectory : String := "/"

/-- What a command is started with. -/
def launchOf (command : Command) : Programs.Launch where
  name := Octets.ofText command.program
  args := command.args.map Octets.ofText
  environment := environment

/-- A run in progress. -/
structure Run where
  /-- The machine. -/
  machine : Machine
  /-- Why nobody listens, if so. -/
  cut : Option Cut := none

namespace Run

/-- Whether a run is over. -/
def isOver (run : Run) : Bool :=
  run.machine.ending.isSome && !run.machine.mayBeHeard

/-- Whether more has been written than is kept. -/
def isLoud (run : Run) : Bool :=
  maxOutput < run.machine.outSize || maxOutput < run.machine.errSize

/-- Stop listening. -/
def stop (run : Run) (cut : Cut) : Run :=
  ⟨run.machine.hangUp .terminate, some cut⟩

/-- Let the clock go on to the next time that matters; none if nothing will ever happen. -/
def wait? (run : Run) (limit : Option Nat) : Option Run :=
  let limit := if run.cut.isSome then none else limit
  let next :=
    match run.machine.nextTime?, limit with
    | some time, some limit => some (min time limit)
    | time, limit => time.or limit
  next.map fun time =>
    { run with machine := { run.machine with now := max time run.machine.now, work := 0 } }

/-- A single step of a run that is not over; none if nothing will ever happen. -/
def step? (run : Run) (limit : Option Nat) : Option Run :=
  if run.cut.isNone && run.isLoud then some (run.stop .loud)
  else if run.cut.isNone && limit.any (· ≤ run.machine.now) then some (run.stop .late)
  else
    match run.machine.step? with
    | some machine => some { run with machine }
    | none => run.wait? limit

/-- Go on until a run is over; the first number bounds the steps. -/
def finish (limit : Option Nat) : Nat -> Run -> Run
  | 0, run => run
  | steps + 1, run =>
      if run.isOver then run
      else
        match run.step? limit with
        | some next => finish limit steps next
        | none => run

end Run

/-- More steps than any run takes. -/
def manySteps : Nat := 1000000000000

/-- The machine in memory as a host. -/
def simulated : Runs := fun limit command =>
  let cwd := (command.cwd.filter (!·.isEmpty)).getD usualDirectory
  match standardFiles.find [] (Octets.ofText cwd) true with
  | .error fault => .error fault
  | .ok (here, .directory) =>
      let machine := Machine.start standardFiles here
          (Programs.startNamed Programs.starter (launchOf command))
      let last := Run.finish limit manySteps { machine }
      .ok ⟨last.cut, last.machine.ending, last.machine.out, last.machine.err⟩
  | .ok _ => .error .notDirectory

/-- Run a command on the machine in memory. -/
def run (timeout : Int) (command : Command) : Worker.RunResult :=
  runOn simulated timeout command

end Execution
end CameraFleet
