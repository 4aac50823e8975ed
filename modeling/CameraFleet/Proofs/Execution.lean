import CameraFleet.Execution.Report

/-!
# What a run reports

Whatever the host does, a result carries a status or an error and never both,
and a status is reported just if the command was started, ended by itself and
did not write too much; a time that was up does not count against it.
-/

namespace CameraFleet
namespace Execution

open Host

/-- Whether a result has the status of a command that ended by itself, or else an error. -/
def Reports (result : Worker.RunResult) (status : Option Nat) : Prop :=
  result.exitCode = status.map Int.ofNat ∧ (result.error = none ↔ status.isSome = true)

/-- The status of a command that ended by itself and did not write too much. -/
def End.status? (ended : End) : Option Nat :=
  match ended.ending with
  | some (.exited status) => if ended.cut = some .loud then none else some status
  | _ => none

theorem reports_cannotStart (reason : String) : Reports (cannotStart reason) none := by
  simp [Reports, cannotStart]

/-- The result of a command that has ended reports its status. -/
theorem reports_conclude (timeout : Nat) (command : Command) (ended : End) :
    Reports (conclude timeout command ended) ended.status? := by
  obtain ⟨cut, ending, out, err⟩ := ended
  cases ending with
  | none => rcases cut with _ | _ | _ <;> simp [Reports, conclude, End.status?]
  | some ending =>
      cases ending with
      | exited status => rcases cut with _ | _ | _ <;> simp [Reports, conclude, End.status?]
      | killed signal => rcases cut with _ | _ | _ <;> simp [Reports, conclude, End.status?]
      | unstarted fault =>
          rcases cut with _ | _ | _ <;> simp [Reports, conclude, End.status?, cannotStart]

/-- What a host says of a command that nothing is wrong with, and its status if it has one. -/
def statusOn (host : Runs) (timeout : Int) (command : Command) : Option Nat :=
  match refusal? timeout command, host (limitOf timeout.toNat) command with
  | none, .ok ended => ended.status?
  | _, _ => none

/--
On every host, a result has a status just if nothing was wrong with the command
and the host says that it ended by itself without having written too much. A
result without a status has an error, and one with a status has none.
-/
theorem reports_runOn (host : Runs) (timeout : Int) (command : Command) :
    Reports (runOn host timeout command) (statusOn host timeout command) := by
  unfold runOn statusOn
  cases refusal? timeout command with
  | some reason => exact reports_cannotStart reason
  | none =>
      cases host (limitOf timeout.toNat) command with
      | error fault => exact reports_cannotStart _
      | ok ended => exact reports_conclude _ _ ended

end Execution
end CameraFleet
