import CameraFleet.Device.Id
import CameraFleet.Endpoint

/-!
# The device registry

The relay keeps a record for every device that has registered, in the order of
first registration. Records are never removed: a device that leaves or falls
silent is only marked inactive, and a later registration of its id takes its
record up again. The number of records is bounded.
-/

namespace CameraFleet
namespace Device

/-- What is known of one device. -/
structure Record where
  /-- The id it registered with. -/
  id : String
  /-- Where its latest registration came from. -/
  address : Endpoint
  /-- When it was last heard of. -/
  lastHeartbeat : Int
  /-- Whether broadcasts go to it. -/
  active : Bool
  /-- When it first registered. -/
  registeredAt : Int
  deriving Repr, DecidableEq

namespace Record

/-- The record of a device that registers for the first time. -/
def new
    (id : String)
    (address : Endpoint)
    (now : Int) : Record :=
  { id, address, lastHeartbeat := now, active := true, registeredAt := now }

/-- The record after another registration. -/
def renew
    (record : Record)
    (address : Endpoint)
    (now : Int) : Record :=
  { record with address, lastHeartbeat := now, active := true }

/-- The record after a heartbeat, which does not make the device active again. -/
def beat
    (record : Record)
    (now : Int) : Record :=
  { record with lastHeartbeat := now }

/-- The record of a device that takes no part. -/
def deactivate (record : Record) : Record :=
  { record with active := false }

/-- An active device that has been silent for longer than `timeout`. -/
def Stale
    (record : Record)
    (now timeout : Int) : Prop :=
  record.active = true ∧ timeout < now - record.lastHeartbeat

instance (record : Record) (now timeout : Int) : Decidable (record.Stale now timeout) := by
  unfold Stale
  infer_instance

end Record

/-- Why a registration is refused. -/
inductive RegisterError
  /-- There is no room for another device. -/
  | capacityExceeded
  /-- The id cannot name a device. -/
  | invalidId
  deriving Repr, DecidableEq

namespace RegisterError

/-- The written name of the reason. -/
def reason : RegisterError -> String
  | .capacityExceeded => "capacity-exceeded"
  | .invalidId => "invalid-device-id"

end RegisterError

/-- All known devices. -/
structure Registry where
  /-- The most records there may be; none if it is not positive. -/
  capacity : Int
  /-- The silence, in milliseconds, after which a device is stale. -/
  livenessTimeout : Int
  /-- The records, in the order of first registration. -/
  records : List Record := []
  deriving Repr, DecidableEq

namespace Registry

/-- The record of an id. -/
def get? (registry : Registry) (id : String) : Option Record :=
  registry.records.find? (·.id == id)

/-- Whether an id has a record. -/
def contains (registry : Registry) (id : String) : Bool :=
  (registry.get? id).isSome

/-- The number of records. -/
def size (registry : Registry) : Nat :=
  registry.records.length

/-- The active devices, in the order of first registration. -/
def active (registry : Registry) : List Record :=
  registry.records.filter (·.active)

/-- The number of active devices. -/
def activeCount (registry : Registry) : Nat :=
  registry.records.countP (·.active)

/-- Change the record of an id. -/
def update
    (registry : Registry)
    (id : String)
    (change : Record -> Record) : Registry :=
  { registry with
    records := registry.records.map fun record =>
      if record.id = id then change record else record }

/-- What a registration that was accepted did. -/
structure Registration where
  /-- The record after it. -/
  record : Record
  /-- Whether the record is new. -/
  created : Bool
  deriving Repr, DecidableEq

/--
Register a device: an id that is known takes up its record again with the new
address, and any other valid id gets a record if there is room.
-/
def register
    (registry : Registry)
    (id : String)
    (address : Endpoint)
    (now : Int) : Registry × Except RegisterError Registration :=
  if Device.ValidId id then
    match registry.get? id with
    | some record =>
        (registry.update id (·.renew address now), .ok ⟨record.renew address now, false⟩)
    | none =>
        if registry.capacity ≤ registry.size then
          (registry, .error .capacityExceeded)
        else
          let record := Record.new id address now
          ({ registry with records := registry.records ++ [record] }, .ok ⟨record, true⟩)
  else
    (registry, .error .invalidId)

/-- Note a sign of life of a device; the answer says whether the id is known. -/
def heartbeat
    (registry : Registry)
    (id : String)
    (now : Int) : Registry × Bool :=
  (registry.update id (·.beat now), registry.contains id)

/-- Mark a device inactive; the answer says whether the id is known. -/
def unregister
    (registry : Registry)
    (id : String) : Registry × Bool :=
  (registry.update id (·.deactivate), registry.contains id)

/-- Mark every stale device inactive; the answer holds the records that this changed. -/
def sweepWith
    (registry : Registry)
    (now timeout : Int) : Registry × List Record :=
  ({ registry with
      records := registry.records.map fun record =>
        if record.Stale now timeout then record.deactivate else record },
    (registry.records.filter (·.Stale now timeout)).map (·.deactivate))

/-- Sweep with the registry's own timeout. -/
def sweep
    (registry : Registry)
    (now : Int) : Registry × List Record :=
  registry.sweepWith now registry.livenessTimeout

end Registry
end Device
end CameraFleet
