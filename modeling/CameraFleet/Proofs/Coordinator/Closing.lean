import CameraFleet.Proofs.Coordinator.Sending
import CameraFleet.Proofs.Coordinator.Silence
import CameraFleet.Proofs.Relay.Ledger

/-!
# Every session is closed once

A coordinator logs what its relay does. In any run, the sessions that it opened
are those that it closed, each once, and the one that collects.
-/

namespace CameraFleet
namespace Relay
namespace Coordinator

open Wire

/-- The events of inputs, with their times. -/
def logOf (coordinator : Coordinator) : List Input -> List (Int × Event)
  | [] => []
  | input :: inputs =>
      (coordinator.take input).events.map (input.time, ·) ++
        (coordinator.take input).coordinator.logOf inputs

/-- The relay is in order, and its tally belongs together with the log. -/
structure Kept (coordinator : Coordinator) (log : List (Int × Event)) : Prop where
  joint : coordinator.relay.Joint
  ledger : Ledger coordinator.relay.tally log

/-- Events that are of no session may follow; -/
theorem Kept.quiet
    {coordinator : Coordinator}
    {log : List (Int × Event)}
    (kept : coordinator.Kept log)
    (now : Int)
    (events : List Event)
    (quiet : ∀ event ∈ events, Quiet event) :
    coordinator.Kept (log ++ events.map (now, ·)) :=
  ⟨kept.joint, kept.ledger.quiet rfl (Nat.le_refl _) now events quiet⟩

/-- so may those of a datagram, -/
theorem Kept.receive
    {coordinator : Coordinator}
    {log : List (Int × Event)}
    (kept : coordinator.Kept log)
    (bytes : Bytes)
    (sender : Endpoint)
    (now : Int) :
    (coordinator.receive bytes sender now).coordinator.Kept
      (log ++ (coordinator.receive bytes sender now).events.map (now, ·)) := by
  simp only [Coordinator.receive]
  split
  · split
    · exact kept.quiet now [_] (by simp [Quiet, Event.opened?, Event.closed?])
    · exact kept.quiet now [_] (by simp [Quiet, Event.opened?, Event.closed?])
    · rename_i message _
      have joint := kept.joint.advance (.take message sender now)
      have ledger := kept.ledger.dispatch kept.joint message sender now
      have same := (hasten_relay
        { coordinator with relay := (coordinator.relay.dispatch message sender now).relay } now).1
      exact ⟨same.symm ▸ joint, same.symm ▸ ledger⟩
  · exact kept.quiet now [] (by simp)

/-- and those of a tick, -/
theorem Kept.tick
    {coordinator : Coordinator}
    {log : List (Int × Event)}
    (kept : coordinator.Kept log)
    (now : Int) :
    (coordinator.tick now).coordinator.Kept
      (log ++ (coordinator.tick now).events.map (now, ·)) := by
  have joint := kept.joint.advance (.expire now)
  have ledger := kept.ledger.expire kept.joint now
  simp only [Coordinator.tick, Tally.expire_eq]
  simp only [advance, Tally.expire_eq] at joint
  split
  · split
    · rw [List.map_append, ← List.append_assoc]
      exact ⟨joint.advance (.sweep now),
        ledger.quiet rfl (Nat.le_refl _) now _ (quiet_sweepEvents _)⟩
    · exact ⟨joint, ledger⟩
  · exact kept.quiet now [] (by simp)

/-- and so those of any input. -/
theorem Kept.take
    {coordinator : Coordinator}
    {log : List (Int × Event)}
    (kept : coordinator.Kept log)
    (input : Input) :
    (coordinator.take input).coordinator.Kept
      (log ++ (coordinator.take input).events.map (input.time, ·)) := by
  cases input with
  | receive bytes sender now => exact kept.receive bytes sender now
  | tick now => exact kept.tick now
  | fire now =>
      have ticked := kept.tick now
      have same := (schedule_relay (coordinator.tick now).coordinator now).1
      exact ⟨same.symm ▸ ticked.joint, same.symm ▸ ticked.ledger⟩

/-- What one input keeps, a run of them keeps. -/
theorem Kept.after
    {coordinator : Coordinator}
    {log : List (Int × Event)}
    (kept : coordinator.Kept log)
    (inputs : List Input) :
    (coordinator.after inputs).Kept (log ++ coordinator.logOf inputs) := by
  induction inputs generalizing coordinator log with
  | nil => simpa [Coordinator.after, logOf] using kept
  | cons input inputs ih =>
      simpa [Coordinator.after, logOf] using ih (kept.take input)

/-- The line of a session that ran out of time lists all devices that have not answered. -/
theorem wording_timedOut (session : Session) :
    (Event.timedOut session).wording =
      s!"Timeout reached for {session.kind.name} {session.id}: " ++
        s!"{session.receivedCount}/{session.expectedCount} replies" ++
        if session.missing = [] then ""
        else ", no reply from " ++ String.intercalate ", " session.missing := by
  have remark : Event.missingRemark session =
      if session.missing = [] then ""
      else ", no reply from " ++ String.intercalate ", " session.missing := by
    unfold Event.missingRemark
    split
    · rename_i none
      rw [none]
      rfl
    · rename_i some
      rw [if_neg some]
  rw [← remark]
  change _ ++ (_ ++ _) = _
  rw [← String.append_assoc]
  rfl

end Coordinator
end Relay
end CameraFleet
