import CameraFleet.Proofs.Relay.History
import CameraFleet.Proofs.Relay.Records

/-!
# A relay apart from itself

A relay that has heard from nobody at its own endpoint neither stores that
endpoint nor sends anything there. A message makes it send one answer, or a
broadcast to each active device, of which there are no more than it has room
for.
-/

namespace CameraFleet
namespace Relay

open Device Wire

/-- A relay with room for some devices that knows nobody at an endpoint. -/
structure Apart (own : Endpoint) (devices : Nat) (relay : Relay) : Prop where
  records : OfRecords (·.address ≠ own) relay.registry
  last : relay.tally.lastRequester ≠ some own
  session : ∀ session, relay.tally.current = some session -> session.requester ≠ own
  sound : relay.registry.Sound
  capacity : relay.registry.capacity = devices

/-- A step that stores no sender of its own keeps the relay apart. -/
theorem Apart.advance
    {own : Endpoint}
    {devices : Nat}
    {relay : Relay}
    (apart : relay.Apart own devices)
    (step : Step)
    (foreign : ∀ message sender now, step = .take message sender now -> sender ≠ own) :
    (relay.advance step).Apart own devices := by
  have sound := sound_advance apart.sound step
  have capacity : (relay.advance step).registry.capacity = devices := by
    rcases registry_advance relay step with same | ⟨call, called⟩
    · rw [same, apart.capacity]
    · rw [called, Registry.capacity_apply, apart.capacity]
  suffices OfRecords (·.address ≠ own) (relay.advance step).registry ∧
      (relay.advance step).tally.lastRequester ≠ some own ∧
      ∀ session, (relay.advance step).tally.current = some session -> session.requester ≠ own from
    ⟨this.1, this.2.1, this.2.2, sound, capacity⟩
  cases step with
  | expire now =>
      simp only [Relay.advance, Tally.expire_eq]
      exact ⟨apart.records, apart.last, fun session current =>
        apart.session session (Tally.pending_eq_some_iff.mp current).1⟩
  | sweep now =>
      exact ⟨apart.records.sweepWith (fun _ far => far) now _, apart.last, apart.session⟩
  | take message sender now =>
      have far := foreign message sender now rfl
      have kept : KeptBy (·.address ≠ own) sender now :=
        ⟨fun _ _ => far, fun _ => far, fun _ far => far, fun _ far => far⟩
      refine ⟨apart.records.dispatch kept message, ?_⟩
      rcases dispatch_lifecycle relay message sender now with
        ⟨kind, rfl⟩ | ⟨kind, id, payload, rfl⟩ | same | ⟨call, called⟩
      · by_cases busy : relay.tally.Busy now
        · obtain ⟨policy, session, current⟩ := busy
          have after : (relay.dispatch (.request kind) sender now).relay = _ :=
            (broadcast_of_busy policy (Tally.pending_eq_some_iff.mpr current) kind sender).1
          rw [Relay.advance, after]
          exact ⟨apart.last, apart.session⟩
        · have after : (relay.dispatch (.request kind) sender now).relay = _ :=
            (broadcast_of_not_busy busy kind sender).1
          rw [Relay.advance, after]
          refine ⟨by simpa [opened, Tally.openSession] using far, fun session current => ?_⟩
          simp only [opened, Tally.openSession] at current
          split at current
          · simp at current
          · rw [← Option.some.inj current]
            exact far
      · rw [Relay.advance, (dispatch_reply relay kind id payload sender now).1]
        cases waiting : relay.tally.pending now with
        | none =>
            rw [Tally.record_of_closed waiting]
            exact ⟨apart.last, by simp [Tally.close]⟩
        | some before =>
            have asked := apart.session before (Tally.pending_eq_some_iff.mp waiting).1
            rw [Tally.record_of_pending waiting]
            split
            · split
              · exact ⟨apart.last, by simp [Tally.close]⟩
              · refine ⟨apart.last, fun session current => ?_⟩
                rw [← Option.some.inj current]
                exact asked
            · exact ⟨apart.last, apart.session⟩
      · rw [Relay.advance, same]
        exact ⟨apart.last, apart.session⟩
      · rw [Relay.advance, called]
        exact ⟨apart.last, apart.session⟩

/-- Steps that store no sender of the relay's own keep it apart. -/
theorem Apart.run
    {own : Endpoint}
    {devices : Nat}
    {relay : Relay}
    (apart : relay.Apart own devices)
    (steps : List Step)
    (foreign : ∀ message sender now, .take message sender now ∈ steps -> sender ≠ own) :
    (relay.run steps).Apart own devices := by
  induction steps generalizing relay with
  | nil => exact apart
  | cons step steps ih =>
      refine ih (apart.advance step ?_) fun message sender now member =>
        foreign message sender now (List.mem_cons_of_mem step member)
      rintro message sender now rfl
      exact foreign message sender now List.mem_cons_self

/-- What a message makes a relay send: one answer that is no broadcast, or a broadcast to
devices. -/
inductive Sends (own : Endpoint) (devices : Nat) (message : Message) : List Outbound -> Prop
  /-- Nothing. -/
  | nothing : Sends own devices message []
  /-- An answer, or a reply that is forwarded. -/
  | one {out : Outbound} (far : out.target ≠ own)
      (quiet : ∀ kind, out.message ≠ .request kind) : Sends own devices message [out]
  /-- A broadcast. -/
  | broadcast {kind : Kind} (asks : message = .request kind) {out : List Outbound}
      (far : ∀ sent ∈ out, sent.target ≠ own) (few : out.length ≤ devices) :
      Sends own devices message out

/-- None of it goes to the relay itself. -/
theorem Sends.far
    {own : Endpoint}
    {devices : Nat}
    {message : Message}
    {out : List Outbound}
    (sends : Sends own devices message out) :
    ∀ sent ∈ out, sent.target ≠ own := by
  cases sends with
  | nothing => simp
  | one far quiet => simpa using far
  | broadcast asks far few => exact far

/-- A relay that is apart from itself sends nothing to itself. -/
theorem Apart.sends
    {own : Endpoint}
    {devices : Nat}
    {relay : Relay}
    (apart : relay.Apart own devices)
    (message : Message)
    {sender : Endpoint}
    (far : sender ≠ own)
    (now : Int) :
    Sends own devices message (relay.dispatch message sender now).out := by
  cases message with
  | register id => exact .one far (by simp)
  | registered status => exact .nothing
  | error code detail => exact .nothing
  | unregister id => exact .nothing
  | heartbeat id =>
      simp only [Relay.dispatch, heartbeat]
      split
      · exact .nothing
      · split
        · exact .nothing
        · exact .one far (by simp)
  | request kind =>
      by_cases busy : relay.tally.Busy now
      · obtain ⟨policy, session, current⟩ := busy
        have out : (relay.dispatch (.request kind) sender now).out = _ :=
          (broadcast_of_busy policy (Tally.pending_eq_some_iff.mpr current) kind sender).2
        rw [out]
        exact .one far (by simp [busyNotice])
      · have out : (relay.dispatch (.request kind) sender now).out = _ :=
          (broadcast_of_not_busy busy kind sender).2
        rw [out]
        split
        · exact .one far (by simp [nobodyNotice])
        · have records := apart.records.sweepWith (fun _ far => far) now
            relay.registry.livenessTimeout
          have few : (relay.swept now).active.length ≤ devices := by
            have active := List.length_filter_le (·.active) (relay.swept now).records
            have size : (relay.swept now).records.length = relay.registry.size := by
              simp [swept, Registry.sweep, Registry.sweepWith, Registry.size]
            have bounded := apart.sound.bounded
            rw [apart.capacity] at bounded
            simp only [Registry.active]
            omega
          refine .broadcast rfl (fun sent member => ?_) (by simpa using few)
          obtain ⟨record, active, rfl⟩ := List.mem_map.mp member
          exact records record (List.mem_filter.mp active).1
  | reply kind id payload =>
      rw [(dispatch_reply relay kind id payload sender now).2]
      cases forward : (relay.tally.record kind id now).2.forwardTo with
      | none => exact .nothing
      | some requester =>
          refine .one ?_ (by simp)
          rintro rfl
          cases waiting : relay.tally.pending now with
          | none =>
              rw [Tally.record_of_closed waiting] at forward
              exact apart.last forward
          | some before =>
              have asked := apart.session before (Tally.pending_eq_some_iff.mp waiting).1
              rw [Tally.record_of_pending waiting] at forward
              refine asked ?_
              split at forward
              · split at forward <;> simpa using forward
              · simpa using forward

end Relay
end CameraFleet
