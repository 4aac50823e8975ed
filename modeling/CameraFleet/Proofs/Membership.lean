import CameraFleet.Device.Registry

/-!
# What the registry keeps

A registry that begins empty holds distinct, valid ids within its capacity,
whatever it is called with. A call never removes, renames or reorders a record,
and a sweep absorbs the sweeps before it.
-/

namespace CameraFleet
namespace Device
namespace Registry

/-- A call of a registry. -/
inductive Call
  /-- A device registers. -/
  | register (id : String) (address : Endpoint) (now : Int)
  /-- A device is alive. -/
  | heartbeat (id : String) (now : Int)
  /-- A device leaves. -/
  | unregister (id : String)
  /-- Silent devices are deactivated. -/
  | sweep (now timeout : Int)

/-- The registry after a call. -/
def apply (registry : Registry) : Call -> Registry
  | .register id address now => (registry.register id address now).1
  | .heartbeat id now => (registry.heartbeat id now).1
  | .unregister id => (registry.unregister id).1
  | .sweep now timeout => (registry.sweepWith now timeout).1

/-- A registry without records. -/
def empty (capacity : Nat) (livenessTimeout : Int) : Registry :=
  { capacity, livenessTimeout }

/-- The ids of the records, in order. -/
def ids (registry : Registry) : List String :=
  registry.records.map (·.id)

/-- What never changes of the records: the ids in order, each with its first registration. -/
def entries (registry : Registry) : List (String × Int) :=
  registry.records.map fun record => (record.id, record.registeredAt)

/-- The entries are in the order of the ids, -/
theorem ids_eq_map_entries (registry : Registry) :
    registry.ids = registry.entries.map (·.1) := by
  simp [ids, entries]

/-- and there is one for each device. -/
theorem size_eq_length_entries (registry : Registry) :
    registry.size = registry.entries.length := by
  simp [size, entries]

/-- Changes that keep ids and first registrations keep the entries. -/
theorem entries_map
    (registry : Registry)
    {change : Record -> Record}
    (keeps : ∀ record, (change record).id = record.id ∧
      (change record).registeredAt = record.registeredAt) :
    ({ registry with records := registry.records.map change } : Registry).entries =
      registry.entries := by
  simp [entries, keeps]

/-- What is updated stays where it is, and since when. -/
@[simp] theorem entries_update
    (registry : Registry)
    (id : String)
    {change : Record -> Record}
    (keeps : ∀ record, (change record).id = record.id ∧
      (change record).registeredAt = record.registeredAt) :
    (registry.update id change).entries = registry.entries := by
  refine entries_map registry fun record => ?_
  split
  · exact keeps record
  · exact ⟨rfl, rfl⟩

@[simp] theorem entries_heartbeat
    (registry : Registry)
    (id : String)
    (now : Int) :
    (registry.heartbeat id now).1.entries = registry.entries :=
  entries_update registry id fun _ => ⟨rfl, rfl⟩

@[simp] theorem entries_unregister
    (registry : Registry)
    (id : String) :
    (registry.unregister id).1.entries = registry.entries :=
  entries_update registry id fun _ => ⟨rfl, rfl⟩

@[simp] theorem entries_sweepWith
    (registry : Registry)
    (now timeout : Int) :
    (registry.sweepWith now timeout).1.entries = registry.entries := by
  refine entries_map registry fun record => ?_
  split <;> exact ⟨rfl, rfl⟩

/-- A registry contains the ids that it lists. -/
theorem contains_iff (registry : Registry) (id : String) :
    registry.contains id = true ↔ id ∈ registry.ids := by
  simp [contains, get?, ids]

theorem id_of_get?
    {registry : Registry}
    {id : String}
    {record : Record}
    (found : registry.get? id = some record) :
    record.id = id := by
  simpa using List.find?_some found

/-- What a registration does to the entries: only a valid id that is new and has room is added. -/
theorem register_cases
    (registry : Registry)
    (id : String)
    (address : Endpoint)
    (now : Int) :
    (¬ ValidId id ∧ registry.register id address now = (registry, .error .invalidId)) ∨
    (ValidId id ∧ (∃ record, registry.get? id = some record ∧
      registry.register id address now =
        (registry.update id (·.renew address now), .ok ⟨record.renew address now, false⟩))) ∨
    (ValidId id ∧ registry.get? id = none ∧ registry.capacity ≤ registry.size ∧
      registry.register id address now = (registry, .error .capacityExceeded)) ∨
    (ValidId id ∧ registry.get? id = none ∧ registry.size < registry.capacity ∧
      registry.register id address now =
        ({ registry with records := registry.records ++ [Record.new id address now] },
          .ok ⟨Record.new id address now, true⟩)) := by
  by_cases valid : ValidId id
  · cases found : registry.get? id with
    | some record => exact .inr (.inl ⟨valid, record, rfl, by simp [register, valid, found]⟩)
    | none =>
        by_cases full : registry.capacity ≤ registry.size
        · exact .inr (.inr (.inl ⟨valid, rfl, full, by simp [register, valid, found, full]⟩))
        · exact .inr (.inr (.inr ⟨valid, rfl, by omega,
            by simp [register, valid, found, full]⟩))
  · exact .inl ⟨valid, by simp [register, valid]⟩

/-- The entries after a registration: the same, or one more of a new valid id within capacity. -/
theorem entries_register
    (registry : Registry)
    (id : String)
    (address : Endpoint)
    (now : Int) :
    (registry.register id address now).1.entries = registry.entries ∨
    (ValidId id ∧ id ∉ registry.ids ∧ registry.size < registry.capacity ∧
      (registry.register id address now).1.entries = registry.entries ++ [(id, now)]) := by
  rcases register_cases registry id address now with
    ⟨_, result⟩ | ⟨_, record, _, result⟩ | ⟨_, _, _, result⟩ | ⟨valid, unknown, room, result⟩
  · simp [result]
  · rw [result]
    exact .inl (entries_update registry id fun _ => ⟨rfl, rfl⟩)
  · simp [result]
  · refine .inr ⟨valid, ?_, room, by simp [result, entries, Record.new]⟩
    rw [← contains_iff]
    simp [contains, unknown]

theorem capacity_apply (registry : Registry) (call : Call) :
    (registry.apply call).capacity = registry.capacity := by
  cases call with
  | register id address now =>
      rcases register_cases registry id address now with
        ⟨_, result⟩ | ⟨_, _, _, result⟩ | ⟨_, _, _, result⟩ | ⟨_, _, _, result⟩ <;>
        simp [apply, result, update]
  | heartbeat id now => rfl
  | unregister id => rfl
  | sweep now timeout => rfl

theorem livenessTimeout_apply (registry : Registry) (call : Call) :
    (registry.apply call).livenessTimeout = registry.livenessTimeout := by
  cases call with
  | register id address now =>
      rcases register_cases registry id address now with
        ⟨_, result⟩ | ⟨_, _, _, result⟩ | ⟨_, _, _, result⟩ | ⟨_, _, _, result⟩ <;>
        simp [apply, result, update]
  | heartbeat id now => rfl
  | unregister id => rfl
  | sweep now timeout => rfl

/-- The entries after a call: the same, or one more of a new valid id within capacity. -/
theorem entries_apply (registry : Registry) (call : Call) :
    (registry.apply call).entries = registry.entries ∨
    ∃ id now, ValidId id ∧ id ∉ registry.ids ∧ registry.size < registry.capacity ∧
      (registry.apply call).entries = registry.entries ++ [(id, now)] := by
  cases call with
  | register id address now =>
      rcases entries_register registry id address now with same | ⟨valid, fresh, room, more⟩
      · exact .inl same
      · exact .inr ⟨id, now, valid, fresh, room, more⟩
  | heartbeat id now => exact .inl (entries_heartbeat registry id now)
  | unregister id => exact .inl (entries_unregister registry id)
  | sweep now timeout => exact .inl (entries_sweepWith registry now timeout)

/-- The ids are distinct and valid, and there are no more of them than there is room for. -/
structure Sound (registry : Registry) : Prop where
  distinct : registry.ids.Nodup
  valid : ∀ id ∈ registry.ids, ValidId id
  bounded : registry.size ≤ registry.capacity

/-- Soundness hangs on the entries and the capacity alone. -/
theorem Sound.of_entries_eq
    {before after : Registry}
    (sound : before.Sound)
    (entries : after.entries = before.entries)
    (capacity : after.capacity = before.capacity) :
    after.Sound := by
  have ids : after.ids = before.ids := by simp [ids_eq_map_entries, entries]
  refine ⟨ids ▸ sound.distinct, ids ▸ sound.valid, ?_⟩
  rw [size_eq_length_entries, entries, ← size_eq_length_entries, capacity]
  exact sound.bounded

theorem sound_empty (capacity : Nat) (livenessTimeout : Int) :
    (empty capacity livenessTimeout).Sound := by
  constructor <;> simp [empty, ids, size]

/-- A call keeps a registry sound. -/
theorem Sound.apply
    {registry : Registry}
    (sound : registry.Sound)
    (call : Call) :
    (registry.apply call).Sound := by
  rcases entries_apply registry call with same | ⟨id, now, valid, fresh, room, more⟩
  · exact sound.of_entries_eq same (capacity_apply registry call)
  · have ids : (registry.apply call).ids = registry.ids ++ [id] := by
      simp [ids_eq_map_entries, more]
    refine ⟨?_, ?_, ?_⟩
    · rw [ids, List.nodup_append]
      refine ⟨sound.distinct, by simp, ?_⟩
      rintro known member other last rfl
      exact fresh (List.mem_singleton.mp last ▸ member)
    · intro known member
      rcases List.mem_append.mp (ids ▸ member) with old | new
      · exact sound.valid known old
      · exact List.mem_singleton.mp new ▸ valid
    · rw [size_eq_length_entries, more, capacity_apply, List.length_append,
        ← size_eq_length_entries]
      simp only [List.length_singleton]
      omega

/-- Calls one after the other keep a registry sound. -/
theorem Sound.foldl_apply
    {registry : Registry}
    (sound : registry.Sound)
    (calls : List Call) :
    (calls.foldl Registry.apply registry).Sound := by
  induction calls generalizing registry with
  | nil => exact sound
  | cons call calls ih => exact ih (sound.apply call)

/-- No calls change the room that there is. -/
theorem capacity_foldl_apply (registry : Registry) (calls : List Call) :
    (calls.foldl apply registry).capacity = registry.capacity := by
  induction calls generalizing registry with
  | nil => rfl
  | cons call calls ih => rw [List.foldl_cons, ih, capacity_apply]

/-- A call keeps the entries that are there, in their places. -/
theorem entries_prefix_apply (registry : Registry) (call : Call) :
    registry.entries <+: (registry.apply call).entries := by
  rcases entries_apply registry call with same | ⟨id, now, _, _, _, more⟩
  · exact same ▸ List.prefix_rfl
  · rw [more]
    exact List.prefix_append _ _

/-- When a registration is refused. -/
theorem register_fails_iff
    (registry : Registry)
    (id : String)
    (address : Endpoint)
    (now : Int) :
    (∃ reason, (registry.register id address now).2 = .error reason) ↔
      ¬ ValidId id ∨ (id ∉ registry.ids ∧ registry.capacity ≤ registry.size) := by
  rw [← contains_iff, contains]
  rcases register_cases registry id address now with
    ⟨invalid, result⟩ | ⟨valid, _, known, result⟩ | ⟨valid, unknown, full, result⟩ |
      ⟨valid, unknown, room, result⟩
  · simp [result, invalid]
  · simp [result, valid, known]
  · simp [result, valid, unknown, full]
  · simp [result, valid, unknown, room]

/-- A registration that is refused changes nothing. -/
theorem register_of_error
    {registry : Registry}
    {id : String}
    {address : Endpoint}
    {now : Int}
    {reason : RegisterError}
    (refused : (registry.register id address now).2 = .error reason) :
    (registry.register id address now).1 = registry := by
  rcases register_cases registry id address now with
    ⟨_, result⟩ | ⟨_, _, _, result⟩ | ⟨_, _, _, result⟩ | ⟨_, _, _, result⟩ <;>
    simp_all

/--
What holds of a registry that began empty, after any calls: its ids are distinct,
valid and within capacity, and active records are counted and listed as they
stand. A further call keeps every id and first registration in its place, and a
registration is refused just if its id is invalid, or new while there is no
room; it then changes nothing.
-/
theorem sound_of_calls
    (capacity : Nat)
    (livenessTimeout : Int)
    (calls : List Call) :
    (calls.foldl apply (empty capacity livenessTimeout)).ids.Nodup ∧
    (∀ id ∈ (calls.foldl apply (empty capacity livenessTimeout)).ids, ValidId id) ∧
    (calls.foldl apply (empty capacity livenessTimeout)).size ≤ capacity ∧
    ∀ registry, registry = calls.foldl apply (empty capacity livenessTimeout) ->
      registry.size = registry.records.length ∧
      registry.activeCount = registry.active.length ∧
      registry.activeCount ≤ registry.size ∧
      registry.active = registry.records.filter (·.active) ∧
      (∀ call, registry.ids <+: (registry.apply call).ids ∧
        registry.entries <+: (registry.apply call).entries) ∧
      ∀ id address now,
        ((∃ reason, (registry.register id address now).2 = .error reason) ↔
          ¬ ValidId id ∨ (id ∉ registry.ids ∧ capacity ≤ registry.size)) ∧
        (∀ reason, (registry.register id address now).2 = .error reason ->
          (registry.register id address now).1 = registry) ∧
        (id ∈ registry.ids ->
          ∃ registration, (registry.register id address now).2 = .ok registration) := by
  have sound := (sound_empty capacity livenessTimeout).foldl_apply calls
  have room : (calls.foldl apply (empty capacity livenessTimeout)).capacity = capacity :=
    capacity_foldl_apply _ calls
  refine ⟨sound.distinct, sound.valid, ?_, ?_⟩
  · have := sound.bounded
    omega
  · rintro registry rfl
    generalize calls.foldl apply (empty capacity livenessTimeout) = registry at sound room
    have count : registry.activeCount = registry.active.length := List.countP_eq_length_filter
    refine ⟨rfl, count, List.countP_le_length, rfl, fun call => ⟨?_, ?_⟩, ?_⟩
    · rw [ids_eq_map_entries, ids_eq_map_entries]
      exact (entries_prefix_apply registry call).map _
    · exact entries_prefix_apply registry call
    · intro id address now
      have fails := register_fails_iff registry id address now
      rw [room] at fails
      refine ⟨by simpa using fails, fun reason => register_of_error, fun known => ?_⟩
      cases result : (registry.register id address now).2 with
      | ok registration => exact ⟨registration, rfl⟩
      | error reason =>
          rcases fails.mp ⟨reason, result⟩ with invalid | ⟨unknown, _⟩
          · exact absurd (sound.valid id known) invalid
          · exact absurd known unknown

end Registry
end Device
end CameraFleet
