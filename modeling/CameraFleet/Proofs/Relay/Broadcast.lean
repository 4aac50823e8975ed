import CameraFleet.Proofs.Relay.Run
import CameraFleet.Proofs.Sweep

/-!
# What becomes of a broadcast

Stale devices are deactivated whatever else happens. Then the broadcast is
refused, or finds nobody, or goes to every active device and opens a session
that waits for just those.
-/

namespace CameraFleet
namespace Relay

open Device Wire

/-- A registry whose devices that were silent for too long have been deactivated. -/
def withoutStale (registry : Registry) (now : Int) : Registry :=
  { registry with
    records := registry.records.map (Registry.swept now registry.livenessTimeout) }

/-- A relay that begins a broadcast has swept its registry. -/
theorem swept_eq_withoutStale (relay : Relay) (now : Int) :
    relay.swept now = withoutStale relay.registry now := by
  have records := Registry.records_sweepWith relay.registry now relay.registry.livenessTimeout
  simpa [swept, Registry.sweep, Registry.sweepWith, withoutStale] using records

/-- A broadcast that finds nobody leaves no session behind. -/
theorem current_opened_of_nobody
    {relay : Relay}
    {now : Int}
    (nobody : (relay.swept now).active.isEmpty = true)
    (kind : Kind)
    (sender : Endpoint) :
    (relay.opened kind sender now).current = none := by
  simp [opened, Tally.openSession, List.isEmpty_iff.mp nobody]

/-- The session of a broadcast that goes out. -/
theorem current_opened_of_somebody
    {relay : Relay}
    {now : Int}
    (somebody : ¬ (relay.swept now).active.isEmpty = true)
    (kind : Kind)
    (sender : Endpoint) :
    (relay.opened kind sender now).current =
      some (Session.new (relay.tally.sequence + 1) kind sender
        ((relay.swept now).active.map (·.id)) now relay.tally.responseTimeout) := by
  simp [opened, Tally.openSession, mt List.isEmpty_iff.mpr somebody]

/--
A broadcast first deactivates exactly the active devices that were silent for
longer than the liveness timeout. Then it is refused, if the policy rejects and
a session collects whose deadline has not come, and the tally is left alone; or
it finds nobody, and no session collects; or it goes to each active device, in
the order of registration and at its recorded address, and a new session waits
for the replies of just these devices.
-/
theorem dispatch_request_outcome
    (relay : Relay)
    (kind : Kind)
    (sender : Endpoint)
    (now : Int) :
    let reaction := relay.dispatch (.request kind) sender now
    let asked := (withoutStale relay.registry now).records.filter (·.active)
    reaction.relay.registry = withoutStale relay.registry now ∧
    ((relay.tally.Busy now ∧
        (∃ detail, reaction.out = [⟨sender, .error "BUSY" detail⟩]) ∧
        reaction.relay.tally = relay.tally) ∨
      (¬ relay.tally.Busy now ∧ asked = [] ∧
        (∃ detail, reaction.out = [⟨sender, .error "NO_DEVICES" detail⟩]) ∧
        reaction.relay.tally.current = none) ∨
      (¬ relay.tally.Busy now ∧ asked ≠ [] ∧
        reaction.out = asked.map (fun record => ⟨record.address, .request kind⟩) ∧
        ∃ session, reaction.relay.tally.current = some session ∧
          session.kind = kind ∧ session.requester = sender ∧ session.startedAt = now ∧
          session.deadline = now + relay.tally.responseTimeout ∧
          session.targets = asked.map (·.id) ∧
          session.expectedCount = reaction.out.length ∧ session.receivedCount = 0)) := by
  intro reaction asked
  have active : (relay.swept now).active = asked := by rw [swept_eq_withoutStale]; rfl
  by_cases busy : relay.tally.Busy now
  · obtain ⟨policy, session, current⟩ := busy
    obtain ⟨after, out⟩ := broadcast_of_busy policy (Tally.pending_eq_some_iff.mpr current) kind
      sender
    have after : reaction.relay = { relay with registry := relay.swept now } := after
    rw [after]
    refine ⟨swept_eq_withoutStale relay now, .inl ⟨⟨policy, session, current⟩, ?_, rfl⟩⟩
    exact ⟨_, out⟩
  · obtain ⟨after, out⟩ := broadcast_of_not_busy busy kind sender
    have after : reaction.relay =
        { relay with registry := relay.swept now, tally := relay.opened kind sender now } := after
    have out : reaction.out = _ := out
    rw [after]
    refine ⟨swept_eq_withoutStale relay now, .inr ?_⟩
    by_cases nobody : (relay.swept now).active.isEmpty = true
    · rw [if_pos nobody] at out
      refine .inl ⟨busy, ?_, ⟨_, out⟩, current_opened_of_nobody nobody kind sender⟩
      rw [← active]
      exact List.isEmpty_iff.mp nobody
    · rw [if_neg nobody, active] at out
      refine .inr ⟨busy, ?_, out, _, current_opened_of_somebody nobody kind sender, rfl, rfl, rfl,
        rfl, ?_, ?_, rfl⟩
      · rw [← active]
        exact mt List.isEmpty_iff.mpr nobody
      · rw [← active]
        rfl
      · simp [out, ← active, Session.new]

end Relay
end CameraFleet
