import CameraFleet.Proofs.Relay.Run

/-!
# What holds of every record

A record is made by a registration and changed by a registration, a heartbeat, a
farewell or a sweep. What these keep holds of every record of the registry,
whatever message comes.
-/

namespace CameraFleet
namespace Relay

open Device Wire

/-- Something holds of every record. -/
def OfRecords (P : Record -> Prop) (registry : Registry) : Prop :=
  ∀ record ∈ registry.records, P record

/-- What a change of one record keeps, holds of all of them after it; -/
theorem OfRecords.update
    {P : Record -> Prop}
    {registry : Registry}
    (all : OfRecords P registry)
    (id : String)
    {change : Record -> Record}
    (keeps : ∀ record, P record -> P (change record)) :
    OfRecords P (registry.update id change) := by
  intro record member
  obtain ⟨before, known, rfl⟩ := List.mem_map.mp member
  split
  · exact keeps before (all before known)
  · exact all before known

/-- so does what deactivating keeps, after a sweep, -/
theorem OfRecords.sweepWith
    {P : Record -> Prop}
    {registry : Registry}
    (all : OfRecords P registry)
    (keeps : ∀ record, P record -> P record.deactivate)
    (now timeout : Int) :
    OfRecords P (registry.sweepWith now timeout).1 := by
  intro record member
  obtain ⟨before, known, rfl⟩ := List.mem_map.mp member
  split
  · exact keeps before (all before known)
  · exact all before known

/-- and what a record has from the start, and keeps when it is renewed. -/
theorem OfRecords.register
    {P : Record -> Prop}
    {registry : Registry}
    (all : OfRecords P registry)
    (id : String)
    {address : Endpoint}
    {now : Int}
    (renews : ∀ record, P record -> P (record.renew address now))
    (makes : P (.new id address now)) :
    OfRecords P (registry.register id address now).1 := by
  rcases Registry.register_cases registry id address now with
    ⟨_, result⟩ | ⟨_, _, _, result⟩ | ⟨_, _, _, result⟩ | ⟨_, _, _, result⟩
  · exact result ▸ all
  · rw [result]
    exact all.update id renews
  · exact result ▸ all
  · rw [result]
    intro record member
    rcases List.mem_append.mp member with old | new
    · exact all record old
    · rw [List.mem_singleton.mp new]
      exact makes

/-- What a message does to records. -/
structure KeptBy (P : Record -> Prop) (sender : Endpoint) (now : Int) : Prop where
  renews : ∀ record, P record -> P (record.renew sender now)
  makes : ∀ id, P (.new id sender now)
  beats : ∀ record, P record -> P (record.beat now)
  deactivates : ∀ record, P record -> P record.deactivate

/-- Whatever message comes, what its changes keep goes on holding of every record. -/
theorem OfRecords.dispatch
    {P : Record -> Prop}
    {relay : Relay}
    (all : OfRecords P relay.registry)
    {sender : Endpoint}
    {now : Int}
    (kept : KeptBy P sender now)
    (message : Message) :
    OfRecords P (relay.dispatch message sender now).relay.registry := by
  cases message with
  | register id => exact all.register id kept.renews (kept.makes id)
  | registered status => exact all
  | heartbeat id =>
      simp only [Relay.dispatch, heartbeat]
      split
      · exact all.update id kept.beats
      · split
        · exact all
        · exact all.register id kept.renews (kept.makes id)
  | unregister id => exact all.update id kept.deactivates
  | request kind =>
      by_cases busy : relay.tally.Busy now
      · obtain ⟨policy, session, current⟩ := busy
        have after : (relay.dispatch (.request kind) sender now).relay = _ :=
          (broadcast_of_busy policy (Tally.pending_eq_some_iff.mpr current) kind sender).1
        rw [after]
        exact all.sweepWith kept.deactivates now _
      · have after : (relay.dispatch (.request kind) sender now).relay = _ :=
          (broadcast_of_not_busy busy kind sender).1
        rw [after]
        exact all.sweepWith kept.deactivates now _
  | reply kind id payload =>
      rw [(dispatch_reply relay kind id payload sender now).1]
      exact all
  | error code detail => exact all

end Relay
end CameraFleet
