import CameraFleet.Proofs.Coordinator.Steps
import CameraFleet.Proofs.Relay.History
import CameraFleet.Proofs.Wire.Transit

/-!
# Devices that the relay has heard of

A device that is active and was heard of not too long ago stays active, whatever
reaches the relay but its farewell. A device that is answered by `OK`, and one
that is active and sends a heartbeat, has just been heard of.
-/

namespace CameraFleet

namespace Relay

open Device Wire

/-- A device is active, and was heard of at a time or later. -/
def Seen (id : String) (since : Int) (relay : Relay) : Prop :=
  ∃ record, relay.registry.get? id = some record ∧ record.active = true ∧
    since ≤ record.lastHeartbeat

/-- A step while a device is not yet taken for silent does not silence it, unless it leaves. -/
theorem not_silences
    {id : String}
    {relay : Relay}
    {record : Record}
    (found : relay.registry.get? id = some record)
    (step : Step)
    (soon : step.time - record.lastHeartbeat ≤ relay.registry.livenessTimeout)
    (stays : ∀ sender now, step ≠ .take (.unregister id) sender now) :
    Moment.silences id relay.registry.livenessTimeout ⟨relay, step⟩ = false := by
  have early : Moment.silences.overdue id relay.registry.livenessTimeout ⟨relay, step⟩ step.time =
      false := by
    simpa [Moment.silences.overdue, found] using soon
  cases step with
  | expire now => rfl
  | sweep now => exact early
  | take message sender now =>
      cases message with
      | request kind => exact early
      | unregister other =>
          have differs : other ≠ id := fun same => stays sender now (same ▸ rfl)
          simpa [Moment.silences] using differs
      | _ => rfl

/-- A step while the device is not yet taken for silent keeps it active, unless it leaves. -/
theorem Seen.advance
    {id : String}
    {since : Int}
    {relay : Relay}
    (seen : Seen id since relay)
    (sound : relay.registry.Sound)
    (step : Step)
    (soon : since ≤ step.time ∧ step.time - since ≤ relay.registry.livenessTimeout)
    (stays : ∀ sender now, step ≠ .take (.unregister id) sender now) :
    Seen id since (relay.advance step) := by
  obtain ⟨record, found, active, late⟩ := seen
  rcases get?_advance sound step id with ⟨_, _, sender, _, after⟩ | ⟨_, after⟩
  · exact ⟨_, after, by simp [found, Record.renew], by simpa [found, Record.renew] using soon.1⟩
  · have spared := not_silences found step (by omega) stays
    refine ⟨_, after.trans (by rw [found]; rfl), ?_⟩
    simp only [touched, spared, Bool.false_eq_true, if_false]
    split
    · exact ⟨active, soon.1⟩
    · exact ⟨active, late⟩

/-- A heartbeat of an active device is heard at its time. -/
theorem Seen.heartbeat
    {id : String}
    {since : Int}
    {relay : Relay}
    (seen : Seen id since relay)
    (sender : Endpoint)
    (now : Int) :
    Seen id now (relay.advance (.take (.heartbeat id) sender now)) := by
  obtain ⟨record, found, active, _⟩ := seen
  have known : relay.registry.contains id = true := by simp [Registry.contains, found]
  have after : (relay.advance (.take (.heartbeat id) sender now)).registry =
      relay.registry.update id (·.beat now) := by
    simp [Relay.advance, dispatch, Relay.heartbeat, Registry.heartbeat, known]
  refine ⟨record.beat now, ?_, active, Int.le_refl now⟩
  rw [after, Registry.get?_update_self _ _ (·.beat now) fun _ => rfl, found]
  rfl

/-- A registration is answered by one of three statuses; at an `OK` the device has just been
heard of. -/
theorem answer_of_register
    {relay : Relay}
    (sound : relay.registry.Sound)
    {id answer : String}
    {sender target : Endpoint}
    {now : Int}
    {viaHeartbeat : Bool}
    (answered : ⟨target, .registered answer⟩ ∈ (relay.register id sender now viaHeartbeat).out) :
    target = sender ∧ answer ∈ ["OK", "FULL", "INVALID"] ∧
      (answer = "OK" -> Seen id now (relay.register id sender now viaHeartbeat).relay) := by
  simp only [register, List.mem_singleton, Outbound.mk.injEq, Message.registered.injEq] at answered
  obtain ⟨same, rfl⟩ := answered
  refine ⟨same, status_mem _, fun ok => ?_⟩
  rcases relay.registry.get?_register sound id sender now with
    ⟨_, _, found⟩ | ⟨reason, refused, _⟩
  · refine ⟨_, found, ?_⟩
    cases relay.registry.get? id <;> simp [Record.renew, Record.new]
  · rw [refused] at ok
    cases reason <;> simp [status] at ok

/-- Only registrations and heartbeats are answered by a status, and those who are told `OK`
have just been heard of. -/
theorem answer_of_dispatch
    {relay : Relay}
    (sound : relay.registry.Sound)
    {message : Message}
    {answer : String}
    {sender target : Endpoint}
    {now : Int}
    (answered : ⟨target, .registered answer⟩ ∈ (relay.dispatch message sender now).out) :
    target = sender ∧ answer ∈ ["OK", "FULL", "INVALID"] ∧
      ∃ id, (message = .register id ∨ message = .heartbeat id) ∧
        (answer = "OK" -> Seen id now (relay.advance (.take message sender now))) := by
  cases message with
  | register id =>
      obtain ⟨same, answers, seen⟩ := answer_of_register sound answered
      exact ⟨same, answers, id, .inl rfl, seen⟩
  | heartbeat id =>
      cases known : relay.registry.contains id with
      | true => simp [dispatch, heartbeat, Registry.heartbeat, known] at answered
      | false =>
          cases policy : relay.unknownHeartbeat with
          | ignore => simp [dispatch, heartbeat, Registry.heartbeat, known, policy] at answered
          | register =>
              have asks : relay.dispatch (.heartbeat id) sender now =
                  relay.register id sender now true := by
                simp [dispatch, heartbeat, Registry.heartbeat, known, policy]
              rw [asks] at answered
              obtain ⟨same, answers, seen⟩ := answer_of_register sound answered
              exact ⟨same, answers, id, .inr rfl, by rw [Relay.advance, asks]; exact seen⟩
  | request kind =>
      by_cases busy : relay.tally.Busy now
      · obtain ⟨policy, session, current⟩ := busy
        have out : (relay.dispatch (.request kind) sender now).out = _ :=
          (broadcast_of_busy policy (Tally.pending_eq_some_iff.mpr current) kind sender).2
        simp [out, busyNotice] at answered
      · have out : (relay.dispatch (.request kind) sender now).out = _ :=
          (broadcast_of_not_busy busy kind sender).2
        rw [out] at answered
        split at answered <;> simp [nobodyNotice] at answered
  | reply kind id payload =>
      rw [(dispatch_reply relay kind id payload sender now).2] at answered
      simp at answered
  | _ => simp [dispatch, unregister] at answered

/-- So do steps at one time. -/
theorem Seen.run
    {id : String}
    {since now : Int}
    {relay : Relay}
    (seen : Seen id since relay)
    (sound : relay.registry.Sound)
    {steps : List Step}
    (times : ∀ step ∈ steps, step.time = now)
    (soon : since ≤ now ∧ now - since ≤ relay.registry.livenessTimeout)
    (stays : ∀ sender now, Step.take (.unregister id) sender now ∉ steps) :
    Seen id since (relay.run steps) := by
  induction steps generalizing relay with
  | nil => exact seen
  | cons step steps ih =>
      have time := times step List.mem_cons_self
      have next := seen.advance sound step (time ▸ soon) fun sender now same =>
        stays sender now (same ▸ List.mem_cons_self)
      exact ih next (sound_advance sound step)
        (fun other member => times other (List.mem_cons_of_mem step member))
        (by rw [livenessTimeout_advance]; exact soon)
        fun sender now member => stays sender now (List.mem_cons_of_mem step member)

/-- A device that is not yet taken for silent is asked by every broadcast that is not refused, and
its reply is waited for. -/
theorem asked_of_active
    {relay : Relay}
    {id : String}
    {record : Record}
    (found : relay.registry.get? id = some record)
    (active : record.active = true)
    {now : Int}
    (soon : now - record.lastHeartbeat ≤ relay.registry.livenessTimeout)
    (free : ¬ relay.tally.Busy now)
    (kind : Kind)
    (sender : Endpoint) :
    ⟨record.address, .request kind⟩ ∈ (relay.dispatch (.request kind) sender now).out ∧
    ∃ session,
      (relay.advance (.take (.request kind) sender now)).tally.current = some session ∧
      id ∈ session.targets := by
  obtain ⟨after, out⟩ := broadcast_of_not_busy free kind sender
  have kept : (relay.swept now).get? id = some record := by
    refine (Registry.get?_sweepWith _ now _ id).trans ?_
    rw [found, Option.map_some, if_neg (by omega)]
  have member : record ∈ (relay.swept now).active :=
    List.mem_filter.mpr ⟨List.mem_of_find?_eq_some kept, active⟩
  have some' : (relay.swept now).active ≠ [] := List.ne_nil_of_mem member
  constructor
  · rw [dispatch, out, if_neg (by simpa using some')]
    exact List.mem_map.mpr ⟨record, member, rfl⟩
  · have opens : (relay.advance (.take (.request kind) sender now)).tally.current =
        some (relay.tally.openSession kind sender ((relay.swept now).active.map (·.id)) now).2 := by
      simp [advance, dispatch, after, opened, Tally.openSession, some']
    exact ⟨_, opens, List.mem_map.mpr ⟨record, member, Registry.id_of_get? found⟩⟩

/-- What an input keeps of a relay. -/
theorem kept_take
    {coordinator : Coordinator}
    (sound : coordinator.relay.registry.Sound)
    (input : Coordinator.Input) :
    (coordinator.take input).coordinator.relay.registry.Sound ∧
    (coordinator.take input).coordinator.relay.registry.livenessTimeout =
      coordinator.relay.registry.livenessTimeout := by
  obtain ⟨_, _, steps, after, _, _⟩ := coordinator.exists_steps_take input
  rw [after]
  exact run_induction (P := fun relay => relay.registry.Sound ∧
    relay.registry.livenessTimeout = coordinator.relay.registry.livenessTimeout) ⟨sound, rfl⟩
    (fun relay step ⟨sound, timeout⟩ =>
      ⟨sound_advance sound step, (livenessTimeout_advance relay step).trans timeout⟩) steps

/-- Inputs while a device is not yet taken for silent keep it active, unless it leaves. -/
theorem seen_take
    {id : String}
    {since : Int}
    {coordinator : Coordinator}
    (seen : Seen id since coordinator.relay)
    (sound : coordinator.relay.registry.Sound)
    (input : Coordinator.Input)
    (soon : since ≤ input.time ∧
      input.time - since ≤ coordinator.relay.registry.livenessTimeout)
    (stays : ∀ bytes sender now, input = .receive bytes sender now ->
      receive bytes coordinator.config.maxMessageBytes ≠ .ok (.unregister id)) :
    Seen id since (coordinator.take input).coordinator.relay := by
  obtain ⟨_, _, steps, after, times, taken⟩ := coordinator.exists_steps_take input
  rw [after]
  refine seen.run sound times soon fun sender now member => ?_
  obtain ⟨bytes, same, received⟩ := taken _ sender now member
  exact stays bytes sender now same received

end Relay
end CameraFleet
