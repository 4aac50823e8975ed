import CameraFleet.Proofs.Relay.Run
import Mathlib.Data.List.Perm.Subperm

/-!
# The session and the registry together

The tally alone would take any list of targets. In every run of the relay the
targets of the session that collects are distinct, valid and known to the
registry, so that each can answer once and the session can be completed.
-/

namespace CameraFleet
namespace Relay

open Device Wire

/-- A session that collects, seen together with the relay's registry. -/
structure Accounted (relay : Relay) (session : Session) : Prop where
  /-- No device is asked twice. -/
  distinct : session.targets.Nodup
  /-- Every device asked is valid and has a record. -/
  known : ∀ id ∈ session.targets, ValidId id ∧ id ∈ relay.registry.ids
  /-- As many replies are expected as devices were asked. -/
  expected : session.expectedCount = session.targets.length
  /-- Somebody was asked. -/
  positive : 0 < session.expectedCount
  /-- There is room for all that were asked. -/
  bounded : session.expectedCount ≤ relay.registry.capacity
  /-- No device has answered twice. -/
  once : session.responded.Nodup
  /-- Whoever has answered was asked. -/
  asked : session.responded ⊆ session.targets
  /-- Every answer was counted. -/
  received : session.receivedCount = session.responded.length
  /-- Somebody has not answered. -/
  lacking : session.receivedCount < session.expectedCount
  /-- The deadline is the response timeout after the start. -/
  deadline : session.deadline = session.startedAt + relay.tally.responseTimeout

/-- The registry is sound, and the session that collects is accounted for. -/
structure Joint (relay : Relay) : Prop where
  sound : relay.registry.Sound
  accounted : ∀ session, relay.tally.current = some session -> relay.Accounted session

/-- A session stays accounted for while ids are only added. -/
theorem Accounted.mono
    {before after : Relay}
    {session : Session}
    (accounted : before.Accounted session)
    (ids : before.registry.ids ⊆ after.registry.ids)
    (capacity : after.registry.capacity = before.registry.capacity)
    (timeout : after.tally.responseTimeout = before.tally.responseTimeout) :
    after.Accounted session :=
  { accounted with
    known := fun id member => ⟨(accounted.known id member).1, ids (accounted.known id member).2⟩
    bounded := capacity ▸ accounted.bounded
    deadline := timeout ▸ accounted.deadline }

/-- A reply that counts comes from a device that has not answered. -/
theorem Accounted.once_tally
    {relay : Relay}
    {session : Session}
    (accounted : relay.Accounted session)
    {kind : Kind}
    {id : String}
    (counts : session.Counts kind id) :
    (session.tally id).responded.Nodup := by
  rw [Session.tally, List.nodup_append]
  exact ⟨accounted.once, by simp, fun other answered _ last same =>
    counts.2.2 (List.mem_singleton.mp last ▸ same ▸ answered)⟩

/-- A reply that counts comes from a device that was asked. -/
theorem Accounted.asked_tally
    {relay : Relay}
    {session : Session}
    (accounted : relay.Accounted session)
    {kind : Kind}
    {id : String}
    (counts : session.Counts kind id) :
    (session.tally id).responded ⊆ session.targets := by
  intro other answered
  rcases List.mem_append.mp answered with before | last
  · exact accounted.asked before
  · exact List.mem_singleton.mp last ▸ counts.2.1

/-- A reply that counts, but does not complete the session, keeps it accounted for. -/
theorem Accounted.tally
    {relay : Relay}
    {session : Session}
    (accounted : relay.Accounted session)
    {kind : Kind}
    {id : String}
    (counts : session.Counts kind id)
    (open' : ¬ (session.tally id).Complete) :
    relay.Accounted (session.tally id) where
  distinct := accounted.distinct
  known := accounted.known
  expected := accounted.expected
  positive := accounted.positive
  bounded := accounted.bounded
  once := accounted.once_tally counts
  asked := accounted.asked_tally counts
  received := by simp [Session.tally, accounted.received]
  lacking := Nat.lt_of_not_le open'
  deadline := accounted.deadline

/-- Somebody who was asked has not answered. -/
theorem Accounted.exists_missing
    {relay : Relay}
    {session : Session}
    (accounted : relay.Accounted session) :
    ∃ id ∈ session.targets, id ∉ session.responded := by
  by_contra all
  push Not at all
  have few := (List.subperm_of_subset accounted.distinct all).length_le
  have := accounted.lacking
  have := accounted.expected
  have := accounted.received
  omega

/-- The devices that have answered a completed session are those that were asked. -/
theorem Accounted.perm_of_complete
    {relay : Relay}
    {session : Session}
    (accounted : relay.Accounted session)
    {kind : Kind}
    {id : String}
    (counts : session.Counts kind id)
    (complete : (session.tally id).Complete) :
    (session.tally id).responded.Perm (session.tally id).targets ∧
    (session.tally id).receivedCount = (session.tally id).expectedCount := by
  have enough : session.expectedCount ≤ session.receivedCount + 1 := complete
  have lacking := accounted.lacking
  have received := accounted.received
  have expected := accounted.expected
  have part := List.subperm_of_subset (accounted.once_tally counts) (accounted.asked_tally counts)
  refine ⟨part.perm_of_length_le ?_, ?_⟩
  · simp only [Session.tally, List.length_append, List.length_singleton]
    omega
  · simp only [Session.tally]
    omega

/-- A session that a broadcast opens is accounted for. -/
theorem Joint.opened
    {relay : Relay}
    (joint : relay.Joint)
    (kind : Kind)
    (sender : Endpoint)
    (now : Int) :
    ({ relay with registry := relay.swept now, tally := relay.opened kind sender now } :
      Relay).Joint := by
  have sound : (relay.swept now).Sound :=
    joint.sound.apply (.sweep now relay.registry.livenessTimeout)
  have part : ((relay.swept now).active.map (·.id)).Sublist (relay.swept now).ids :=
    List.filter_sublist.map _
  refine ⟨sound, fun session current => ?_⟩
  simp only [Relay.opened, Tally.openSession] at current
  split at current
  · simp at current
  · rename_i somebody
    obtain rfl := Option.some.inj current
    have few : ((relay.swept now).active.map (·.id)).length ≤ (relay.swept now).size := by
      have := part.length_le
      simpa [Registry.ids, Registry.size] using this
    have some' : 0 < ((relay.swept now).active.map (·.id)).length :=
      List.length_pos_iff.mpr (mt List.isEmpty_iff.mpr somebody)
    have room := sound.bounded
    exact
      { distinct := sound.distinct.sublist part
        known := fun id member =>
          ⟨sound.valid id (part.subset member), part.subset member⟩
        expected := rfl
        positive := some'
        bounded := by simp only [Session.new]; omega
        once := List.nodup_nil
        asked := List.nil_subset _
        received := rfl
        lacking := some'
        deadline := rfl }

/-- Recording a reply keeps the session that goes on accounted for. -/
theorem Joint.record
    {relay : Relay}
    (joint : relay.Joint)
    (kind : Kind)
    (id : String)
    (now : Int) :
    ({ relay with tally := (relay.tally.record kind id now).1 } : Relay).Joint := by
  refine ⟨joint.sound, fun session current => ?_⟩
  cases waiting : relay.tally.pending now with
  | none =>
      rw [Tally.record_of_closed waiting] at current
      simp [Tally.close] at current
  | some before =>
      have accounted := joint.accounted before (Tally.pending_eq_some_iff.mp waiting).1
      rw [Tally.record_of_pending waiting] at current ⊢
      by_cases counts : before.Counts kind id
      · by_cases complete : (before.tally id).Complete
        · simp [counts, complete, Tally.close] at current
        · simp only [counts, complete, if_true, if_false] at current ⊢
          obtain rfl := Option.some.inj current
          exact (accounted.tally counts complete).mono (List.Subset.refl _) rfl rfl
      · simp only [counts, if_false] at current ⊢
        exact joint.accounted session current

theorem Joint.expire
    {relay : Relay}
    (joint : relay.Joint)
    (now : Int) :
    ({ relay with tally := (relay.tally.expire now).1 } : Relay).Joint := by
  rw [Tally.expire_eq]
  refine ⟨joint.sound, fun session current => ?_⟩
  have before := (Tally.pending_eq_some_iff.mp current).1
  exact (joint.accounted session before).mono (List.Subset.refl _) rfl rfl

theorem Joint.apply
    {relay : Relay}
    (joint : relay.Joint)
    (call : Registry.Call) :
    ({ relay with registry := relay.registry.apply call } : Relay).Joint := by
  refine ⟨joint.sound.apply call, fun session current => ?_⟩
  refine (joint.accounted session current).mono ?_ (Registry.capacity_apply _ call) rfl
  rw [Registry.ids_eq_map_entries, Registry.ids_eq_map_entries]
  exact ((Registry.entries_prefix_apply relay.registry call).map _).subset

/-- A step keeps the session and the registry in order together. -/
theorem Joint.advance
    {relay : Relay}
    (joint : relay.Joint)
    (step : Step) :
    (relay.advance step).Joint := by
  rcases advance_cases relay step with
    same | ⟨call, called⟩ | ⟨now, expired⟩ | ⟨kind, id, now, recorded⟩ |
      ⟨kind, sender, now, _, opened⟩
  · exact same.symm ▸ joint
  · exact called.symm ▸ joint.apply call
  · exact expired.symm ▸ joint.expire now
  · exact recorded.symm ▸ joint.record kind id now
  · exact opened.symm ▸ joint.opened kind sender now

theorem joint_new (config : Config) : (new config).Joint :=
  ⟨Registry.sound_empty config.maxDevices config.timing.livenessTimeout, by simp [new]⟩

/-- The session that a reply completes has been answered by just those that were asked. -/
theorem Joint.perm_of_completed
    {relay : Relay}
    (joint : relay.Joint)
    {kind : Kind}
    {id : String}
    {now : Int}
    {session : Session}
    (completed : (relay.tally.record kind id now).2.completed = some session) :
    session.responded.Perm session.targets ∧
    session.receivedCount = session.expectedCount := by
  cases waiting : relay.tally.pending now with
  | none =>
      rw [Tally.record_of_closed waiting] at completed
      simp at completed
  | some before =>
      have accounted := joint.accounted before (Tally.pending_eq_some_iff.mp waiting).1
      rw [Tally.record_of_pending waiting] at completed
      by_cases counts : before.Counts kind id
      · by_cases complete : (before.tally id).Complete
        · simp only [counts, complete, if_true, Option.some.injEq] at completed
          obtain rfl := completed
          exact accounted.perm_of_complete counts complete
        · simp [counts, complete] at completed
      · simp [counts] at completed

theorem limits_run (config : Config) (steps : List Step) :
    ((new config).run steps).registry.capacity = config.maxDevices ∧
    ((new config).run steps).tally.responseTimeout = config.timing.responseTimeout := by
  refine run_induction (P := fun relay => relay.registry.capacity = config.maxDevices ∧
    relay.tally.responseTimeout = config.timing.responseTimeout) ⟨rfl, rfl⟩ ?_ steps
  rintro relay step ⟨capacity, timeout⟩
  rcases advance_cases relay step with
    same | ⟨call, called⟩ | ⟨now, expired⟩ | ⟨kind, id, now, recorded⟩ |
      ⟨kind, sender, now, _, opened⟩
  · exact same.symm ▸ ⟨capacity, timeout⟩
  · exact called.symm ▸ ⟨(Registry.capacity_apply _ call).trans capacity, timeout⟩
  · rw [expired, Tally.expire_eq]
    exact ⟨capacity, timeout⟩
  · rw [recorded]
    refine ⟨capacity, Eq.trans ?_ timeout⟩
    cases waiting : relay.tally.pending now with
    | none => rw [Tally.record_of_closed waiting]; rfl
    | some session =>
        rw [Tally.record_of_pending waiting]
        split
        · split <;> rfl
        · rfl
  · exact opened.symm ▸ ⟨capacity, timeout⟩

/--
In every run from the start, the session that collects is accounted for: its
targets are distinct, valid and known, within capacity, and somebody among them
has not answered. A session that a reply completes has been answered by each of
its targets once.
-/
theorem sessions_accounted
    (config : Config)
    (steps : List Step) :
    ((new config).run steps).registry.capacity = config.maxDevices ∧
    ((new config).run steps).tally.responseTimeout = config.timing.responseTimeout ∧
    (∀ session, ((new config).run steps).tally.current = some session ->
      ((new config).run steps).Accounted session ∧
        ∃ id ∈ session.targets, id ∉ session.responded) ∧
    ∀ kind id now session,
      (((new config).run steps).tally.record kind id now).2.completed = some session ->
        session.responded.Perm session.targets ∧
        session.receivedCount = session.expectedCount := by
  have joint : ((new config).run steps).Joint :=
    run_induction (joint_new config) (fun _ step joint => joint.advance step) steps
  refine ⟨(limits_run config steps).1, (limits_run config steps).2, fun session current => ?_, ?_⟩
  · have accounted := joint.accounted session current
    exact ⟨accounted, accounted.exists_missing⟩
  · intro kind id now session completed
    exact joint.perm_of_completed completed

end Relay
end CameraFleet
