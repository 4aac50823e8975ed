import CameraFleet.Proofs.Broadcasts
import CameraFleet.Proofs.Membership
import CameraFleet.Relay.Dispatch

/-!
# Runs of the relay

The relay takes messages; a timer expires its session and sweeps its registry.
A run is any sequence of these steps, at any times. Each step is said once, by
what it does to the registry and to the tally.
-/

namespace CameraFleet
namespace Relay

open Device Wire

/-- A step of the relay. -/
inductive Step
  /-- A message is dispatched. -/
  | take (message : Message) (sender : Endpoint) (now : Int)
  /-- A session whose deadline has come is closed. -/
  | expire (now : Int)
  /-- Silent devices are deactivated. -/
  | sweep (now : Int)

/-- When a step happens. -/
def Step.time : Step -> Int
  | .take _ _ now => now
  | .expire now => now
  | .sweep now => now

/-- The relay after a step. -/
def advance (relay : Relay) : Step -> Relay
  | .take message sender now => (relay.dispatch message sender now).relay
  | .expire now => { relay with tally := (relay.tally.expire now).1 }
  | .sweep now => { relay with registry := (relay.registry.sweep now).1 }

/-- The relay after steps. -/
def run (relay : Relay) (steps : List Step) : Relay :=
  steps.foldl advance relay

@[simp] theorem run_nil (relay : Relay) : relay.run [] = relay := rfl

@[simp] theorem run_cons (relay : Relay) (step : Step) (steps : List Step) :
    relay.run (step :: steps) = (relay.advance step).run steps := rfl

/-- What each step preserves, a run preserves. -/
theorem run_induction
    {P : Relay -> Prop}
    {relay : Relay}
    (start : P relay)
    (kept : ∀ relay step, P relay -> P (relay.advance step))
    (steps : List Step) :
    P (relay.run steps) := by
  induction steps generalizing relay with
  | nil => exact start
  | cons step steps ih => exact ih (kept relay step start)

/-! ## Broadcasts -/

/-- The registry after the sweep that comes before a broadcast. -/
def swept (relay : Relay) (now : Int) : Registry :=
  (relay.registry.sweep now).1

/-- A refused broadcast is answered, and only the sweep shows. -/
theorem broadcast_of_busy
    {relay : Relay}
    {now : Int}
    {session : Session}
    (policy : relay.tally.policy = .reject)
    (waiting : relay.tally.pending now = some session)
    (kind : Kind)
    (sender : Endpoint) :
    (relay.broadcast kind sender now).relay = { relay with registry := relay.swept now } ∧
    (relay.broadcast kind sender now).out = [⟨sender, busyNotice session⟩] := by
  simp [broadcast, Tally.begin_of_busy policy waiting, swept]

/-- The tally after a broadcast that was not refused. -/
def opened
    (relay : Relay)
    (kind : Kind)
    (sender : Endpoint)
    (now : Int) : Tally :=
  (relay.tally.openSession kind sender ((relay.swept now).active.map (·.id)) now).1

/-- A broadcast that is not refused goes to the active devices, if there are any. -/
theorem broadcast_of_not_busy
    {relay : Relay}
    {now : Int}
    (free : ¬ relay.tally.Busy now)
    (kind : Kind)
    (sender : Endpoint) :
    (relay.broadcast kind sender now).relay =
      { relay with registry := relay.swept now, tally := relay.opened kind sender now } ∧
    (relay.broadcast kind sender now).out =
      if (relay.swept now).active.isEmpty then [⟨sender, nobodyNotice⟩]
      else (relay.swept now).active.map fun record => ⟨record.address, .request kind⟩ := by
  simp only [broadcast, Tally.begin_of_not_busy free, opened, Tally.openSession, swept]
  split <;> simp_all

/-! ## Registrations -/

/-- What a message other than a broadcast or a reply does: at most one call of the registry. -/
theorem dispatch_lifecycle
    (relay : Relay)
    (message : Message)
    (sender : Endpoint)
    (now : Int) :
    (∃ kind, message = .request kind) ∨
    (∃ kind id payload, message = .reply kind id payload) ∨
    (relay.dispatch message sender now).relay = relay ∨
    ∃ call, (relay.dispatch message sender now).relay =
      { relay with registry := relay.registry.apply call } := by
  cases message with
  | register id => exact .inr (.inr (.inr ⟨.register id sender now, rfl⟩))
  | registered status => exact .inr (.inr (.inl rfl))
  | heartbeat id =>
      right; right
      simp only [dispatch, heartbeat]
      split
      · exact .inr ⟨.heartbeat id now, rfl⟩
      · split
        · exact .inl rfl
        · exact .inr ⟨.register id sender now, rfl⟩
  | unregister id => exact .inr (.inr (.inr ⟨.unregister id, rfl⟩))
  | request kind => exact .inl ⟨kind, rfl⟩
  | reply kind id payload => exact .inr (.inl ⟨kind, id, payload, rfl⟩)
  | error code detail => exact .inr (.inr (.inl rfl))

/-- A reply is recorded, and forwarded to where the record says. -/
theorem dispatch_reply
    (relay : Relay)
    (kind : Kind)
    (id payload : String)
    (sender : Endpoint)
    (now : Int) :
    (relay.dispatch (.reply kind id payload) sender now).relay =
      { relay with tally := (relay.tally.record kind id now).1 } ∧
    (relay.dispatch (.reply kind id payload) sender now).out =
      ((relay.tally.record kind id now).2.forwardTo.map fun requester =>
        ⟨requester, .reply kind id payload⟩).toList := by
  simp only [dispatch, reply]
  split <;> simp_all

/--
Every step by what it does: a call of the registry, an expiry, a record of a
reply, or a broadcast that was refused or opened a session.
-/
theorem advance_cases (relay : Relay) (step : Step) :
    relay.advance step = relay ∨
    (∃ call, relay.advance step = { relay with registry := relay.registry.apply call }) ∨
    (∃ now, relay.advance step = { relay with tally := (relay.tally.expire now).1 }) ∨
    (∃ kind id now,
      relay.advance step = { relay with tally := (relay.tally.record kind id now).1 }) ∨
    ∃ kind sender now, ¬ relay.tally.Busy now ∧
      relay.advance step =
        { relay with registry := relay.swept now, tally := relay.opened kind sender now } := by
  cases step with
  | expire now => exact .inr (.inr (.inl ⟨now, rfl⟩))
  | sweep now => exact .inr (.inl ⟨.sweep now relay.registry.livenessTimeout, rfl⟩)
  | take message sender now =>
      rcases dispatch_lifecycle relay message sender now with
        ⟨kind, rfl⟩ | ⟨kind, id, payload, rfl⟩ | same | ⟨call, called⟩
      · by_cases busy : relay.tally.Busy now
        · obtain ⟨policy, session, current⟩ := busy
          have waiting := Tally.pending_eq_some_iff.mpr current
          refine .inr (.inl ⟨.sweep now relay.registry.livenessTimeout, ?_⟩)
          exact (broadcast_of_busy policy waiting kind sender).1
        · exact .inr (.inr (.inr (.inr ⟨kind, sender, now, busy,
            (broadcast_of_not_busy busy kind sender).1⟩)))
      · exact .inr (.inr (.inr (.inl ⟨kind, id, now,
          (dispatch_reply relay kind id payload sender now).1⟩)))
      · exact .inl same
      · exact .inr (.inl ⟨call, called⟩)

/-- The registry after a step: the same, or that after one call. -/
theorem registry_advance (relay : Relay) (step : Step) :
    (relay.advance step).registry = relay.registry ∨
    ∃ call, (relay.advance step).registry = relay.registry.apply call := by
  rcases advance_cases relay step with
    same | ⟨call, called⟩ | ⟨now, expired⟩ | ⟨kind, id, now, recorded⟩ |
      ⟨kind, sender, now, _, opened⟩
  · exact .inl (congrArg registry same)
  · exact .inr ⟨call, congrArg registry called⟩
  · exact .inl (by rw [expired])
  · exact .inl (by rw [recorded])
  · exact .inr ⟨.sweep now relay.registry.livenessTimeout, congrArg registry opened⟩

theorem livenessTimeout_advance (relay : Relay) (step : Step) :
    (relay.advance step).registry.livenessTimeout = relay.registry.livenessTimeout := by
  rcases registry_advance relay step with same | ⟨call, called⟩
  · rw [same]
  · rw [called, Registry.livenessTimeout_apply]

end Relay
end CameraFleet
