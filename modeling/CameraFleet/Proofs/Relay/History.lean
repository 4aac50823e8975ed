import CameraFleet.Proofs.Relay.Run
import Mathlib.Data.List.Induction
import Mathlib.Data.List.TakeWhile

/-!
# Membership by history

What the registry holds of a device can be read off the messages and sweeps
themselves: when it registered, when it was last heard of, and whether something
has deactivated it since.
-/

namespace CameraFleet

namespace Device
namespace Registry

theorem get?_map
    (registry : Registry)
    {change : Record -> Record}
    (keeps : ∀ record, (change record).id = record.id)
    (id : String) :
    ({ registry with records := registry.records.map change } : Registry).get? id =
      (registry.get? id).map change := by
  simp only [get?, List.find?_map]
  congr 2
  funext record
  simp [keeps]

theorem get?_update_self
    (registry : Registry)
    (id : String)
    (change : Record -> Record)
    (keeps : ∀ record, (change record).id = record.id) :
    (registry.update id change).get? id = (registry.get? id).map change := by
  unfold update
  rw [get?_map registry (fun record => by split <;> simp [keeps])]
  cases found : registry.get? id with
  | none => rfl
  | some record => simp [id_of_get? found]

theorem get?_update_other
    (registry : Registry)
    {id other : String}
    (differs : other ≠ id)
    (change : Record -> Record)
    (keeps : ∀ record, (change record).id = record.id) :
    (registry.update other change).get? id = registry.get? id := by
  unfold update
  rw [get?_map registry (fun record => by split <;> simp [keeps])]
  cases found : registry.get? id with
  | none => rfl
  | some record => simp [id_of_get? found, differs.symm]

/-- A sweep deactivates a device that has been silent too long. -/
theorem get?_sweepWith
    (registry : Registry)
    (now timeout : Int)
    (id : String) :
    (registry.sweepWith now timeout).1.get? id =
      (registry.get? id).map fun record =>
        if timeout < now - record.lastHeartbeat then record.deactivate else record := by
  unfold sweepWith
  rw [get?_map registry fun record => by split <;> rfl]
  congr 1
  funext record
  by_cases late : timeout < now - record.lastHeartbeat
  · cases active : record.active with
    | true => simp [Record.Stale, active, late]
    | false =>
        obtain ⟨_, _, _, _, _⟩ := record
        simp_all [Record.Stale, Record.deactivate]
  · simp [Record.Stale, late]

/-- A device of a valid id that has a record can always register again. -/
theorem get?_register
    (registry : Registry)
    (sound : registry.Sound)
    (id : String)
    (address : Endpoint)
    (now : Int) :
    (∃ registration, (registry.register id address now).2 = .ok registration ∧
      (registry.register id address now).1.get? id =
        some (((registry.get? id).map (·.renew address now)).getD (.new id address now))) ∨
    (∃ reason, (registry.register id address now).2 = .error reason ∧
      (registry.register id address now).1 = registry ∧ registry.get? id = none) := by
  rcases register_cases registry id address now with
    ⟨invalid, result⟩ | ⟨_, record, found, result⟩ | ⟨_, unknown, _, result⟩ |
      ⟨_, unknown, _, result⟩
  · refine .inr ⟨_, by rw [result], by rw [result], ?_⟩
    cases found : registry.get? id with
    | none => rfl
    | some record =>
        have known : id ∈ registry.ids := by
          rw [← contains_iff]
          simp [contains, found]
        exact absurd (sound.valid id known) invalid
  · refine .inl ⟨_, by rw [result], ?_⟩
    rw [result]
    simp [get?_update_self registry id (·.renew address now) fun _ => rfl, found]
  · exact .inr ⟨_, by rw [result], by rw [result], unknown⟩
  · refine .inl ⟨_, by rw [result], ?_⟩
    have fresh : registry.records.find? (·.id == id) = none := unknown
    rw [result]
    simp [get?, fresh, Record.new]

theorem get?_register_other
    (registry : Registry)
    {id other : String}
    (differs : other ≠ id)
    (address : Endpoint)
    (now : Int) :
    (registry.register other address now).1.get? id = registry.get? id := by
  rcases register_cases registry other address now with
    ⟨_, result⟩ | ⟨_, _, _, result⟩ | ⟨_, _, _, result⟩ | ⟨_, _, _, result⟩ <;> rw [result]
  · exact get?_update_other registry differs _ fun _ => rfl
  · simp [get?, Record.new, differs]

end Registry
end Device

namespace Relay

open Device Wire

/-- Where the message of a step comes from. -/
def Step.sender? : Step -> Option Endpoint
  | .take _ sender _ => some sender
  | _ => none

/-- A step, with the relay that meets it. -/
structure Moment where
  /-- The relay before the step. -/
  relay : Relay
  /-- The step. -/
  step : Step

/-- The moments of a run. -/
def moments (relay : Relay) : List Step -> List Moment
  | [] => []
  | step :: steps => ⟨relay, step⟩ :: moments (relay.advance step) steps

namespace Moment

/-- Whether the message of a moment is answered by `REGISTERED:OK`. -/
def accepts (moment : Moment) : Bool :=
  match moment.step with
  | .take message sender now =>
      (moment.relay.dispatch message sender now).out.contains ⟨sender, .registered "OK"⟩
  | _ => false

/--
Whether a moment registers a device: it registers, or it sends a heartbeat
without a record where that counts as registering, and it is accepted.
-/
def registers (id : String) (moment : Moment) : Bool :=
  match moment.step with
  | .take (.register other) _ _ => other == id && moment.accepts
  | .take (.heartbeat other) _ _ =>
      other == id && moment.relay.unknownHeartbeat == .register &&
        !moment.relay.registry.contains id && moment.accepts
  | _ => false

/-- Whether a moment is a sign of life of a device. -/
def shows (id : String) (moment : Moment) : Bool :=
  match moment.step with
  | .take (.register other) _ _ => other == id
  | .take (.heartbeat other) _ _ => other == id
  | _ => false

/--
Whether a moment makes a device inactive: the device leaves, or there is a sweep,
be it one that comes before a broadcast, when the device has been silent for
longer than the timeout.
-/
def silences (id : String) (timeout : Int) (moment : Moment) : Bool :=
  match moment.step with
  | .take (.unregister other) _ _ => other == id
  | .take (.request _) _ now => overdue now
  | .sweep now => overdue now
  | _ => false
where
  /-- Whether the device has been silent for longer than the timeout. -/
  overdue (now : Int) : Bool :=
    (moment.relay.registry.get? id).any fun record => timeout < now - record.lastHeartbeat

end Moment

theorem moments_concat (relay : Relay) (steps : List Step) (step : Step) :
    relay.moments (steps ++ [step]) = relay.moments steps ++ [⟨relay.run steps, step⟩] := by
  induction steps generalizing relay with
  | nil => rfl
  | cons first steps ih => simp [moments, ih]

theorem run_concat (relay : Relay) (steps : List Step) (step : Step) :
    relay.run (steps ++ [step]) = (relay.run steps).advance step := by
  simp [run, List.foldl_append]

theorem sound_advance
    {relay : Relay}
    (sound : relay.registry.Sound)
    (step : Step) :
    (relay.advance step).registry.Sound := by
  rcases registry_advance relay step with same | ⟨call, called⟩
  · exact same ▸ sound
  · exact called ▸ sound.apply call

theorem sound_run (config : Config) (steps : List Step) :
    ((new config).run steps).registry.Sound ∧
    ((new config).run steps).registry.livenessTimeout = config.timing.livenessTimeout := by
  refine run_induction (P := fun relay => relay.registry.Sound ∧
    relay.registry.livenessTimeout = config.timing.livenessTimeout)
    ⟨Registry.sound_empty _ _, rfl⟩ ?_ steps
  rintro relay step ⟨sound, timeout⟩
  exact ⟨sound_advance sound step, (livenessTimeout_advance relay step).trans timeout⟩

/-- What a moment that does not register a device does to its record. -/
def touched (id : String) (timeout : Int) (moment : Moment) (record : Record) : Record :=
  let shown := if moment.shows id then record.beat moment.step.time else record
  if moment.silences id timeout then shown.deactivate else shown

/-- A moment that has nothing to do with a device leaves its record alone. -/
theorem map_touched
    {id : String}
    {timeout : Int}
    {moment : Moment}
    (hidden : moment.shows id = false)
    (spared : moment.silences id timeout = false)
    (found : Option Record) :
    found.map (touched id timeout moment) = found := by
  cases found <;> simp [touched, hidden, spared]

/-- A moment with a sweep deactivates a device that has been silent too long. -/
theorem get?_swept
    {relay : Relay}
    {moment : Moment}
    {now : Int}
    {id : String}
    (hidden : moment.shows id = false)
    (sweeps : moment.silences id relay.registry.livenessTimeout =
      (relay.registry.get? id).any fun record =>
        relay.registry.livenessTimeout < now - record.lastHeartbeat) :
    (relay.swept now).get? id =
      (relay.registry.get? id).map (touched id relay.registry.livenessTimeout moment) := by
  refine (Registry.get?_sweepWith _ now _ id).trans ?_
  cases found : relay.registry.get? id with
  | none => rfl
  | some record =>
      rw [found] at sweeps
      by_cases late : relay.registry.livenessTimeout < now - record.lastHeartbeat
      · simp_all [touched]
      · have spared : moment.silences id relay.registry.livenessTimeout = false := by
          simp [sweeps, late]
        simp [late, touched, hidden, spared]

/-- An accepted registration is answered so. -/
theorem contains_status
    (sender : Endpoint)
    (result : Except RegisterError Registry.Registration) :
    [(⟨sender, .registered (status result)⟩ : Outbound)].contains ⟨sender, .registered "OK"⟩ =
      result.isOk := by
  rcases result with reason | registration
  · cases reason <;> simp [status, Except.isOk, Except.toBool]
  · simp [status, Except.isOk, Except.toBool]

/-- What a message does that registers a device, if it is accepted. -/
theorem get?_advance_of_register
    {relay : Relay}
    (sound : relay.registry.Sound)
    {message : Message}
    {sender : Endpoint}
    {now : Int}
    {id : String}
    {viaHeartbeat : Bool}
    (asks : relay.dispatch message sender now = relay.register id sender now viaHeartbeat)
    (counts : Moment.registers id ⟨relay, .take message sender now⟩ =
      Moment.accepts ⟨relay, .take message sender now⟩) :
    (Moment.registers id ⟨relay, .take message sender now⟩ = true ∧
      (relay.advance (.take message sender now)).registry.get? id =
        some (((relay.registry.get? id).map (·.renew sender now)).getD (.new id sender now))) ∨
    (Moment.registers id ⟨relay, .take message sender now⟩ = false ∧
      relay.registry.get? id = none ∧
      (relay.advance (.take message sender now)).registry.get? id = none) := by
  have accepts : Moment.accepts ⟨relay, .take message sender now⟩ =
      (relay.registry.register id sender now).2.isOk := by
    simp only [Moment.accepts, asks]
    exact contains_status _ _
  have after : (relay.advance (.take message sender now)).registry =
      (relay.registry.register id sender now).1 := by
    simp only [advance, asks, register]
  rcases relay.registry.get?_register sound id sender now with
    ⟨registration, result, found⟩ | ⟨reason, result, same, unknown⟩
  · refine .inl ⟨?_, after ▸ found⟩
    rw [counts, accepts, result]
    rfl
  · refine .inr ⟨?_, unknown, ?_⟩
    · rw [counts, accepts, result]
      rfl
    · rw [after, same, unknown]

/-- What one step does to the record of a device. -/
theorem get?_advance
    {relay : Relay}
    (sound : relay.registry.Sound)
    (step : Step)
    (id : String) :
    (Moment.registers id ⟨relay, step⟩ = true ∧ Moment.shows id ⟨relay, step⟩ = true ∧
      ∃ sender, step.sender? = some sender ∧
      (relay.advance step).registry.get? id =
        some (((relay.registry.get? id).map (·.renew sender step.time)).getD
          (.new id sender step.time))) ∨
    (Moment.registers id ⟨relay, step⟩ = false ∧
      (relay.advance step).registry.get? id =
        (relay.registry.get? id).map
          (touched id relay.registry.livenessTimeout ⟨relay, step⟩)) := by
  cases step with
  | expire now => exact .inr ⟨rfl, (map_touched rfl rfl _).symm⟩
  | sweep now => exact .inr ⟨rfl, get?_swept rfl rfl⟩
  | take message sender now =>
      cases message with
      | registered status => exact .inr ⟨rfl, (map_touched rfl rfl _).symm⟩
      | error code detail => exact .inr ⟨rfl, (map_touched rfl rfl _).symm⟩
      | reply kind other payload =>
          refine .inr ⟨rfl, ?_⟩
          have same := (dispatch_reply relay kind other payload sender now).1
          have kept : (relay.advance (.take (.reply kind other payload) sender now)).registry =
              relay.registry := by rw [advance, same]
          rw [kept, map_touched rfl rfl]
      | request kind =>
          refine .inr ⟨rfl, ?_⟩
          have kept : (relay.advance (.take (.request kind) sender now)).registry =
              relay.swept now := by
            by_cases busy : relay.tally.Busy now
            · obtain ⟨policy, session, current⟩ := busy
              exact congrArg (·.registry) (broadcast_of_busy policy
                (Tally.pending_eq_some_iff.mpr current) kind sender).1
            · exact congrArg (·.registry) (broadcast_of_not_busy busy kind sender).1
          rw [kept]
          exact get?_swept rfl rfl
      | unregister other =>
          refine .inr ⟨rfl, ?_⟩
          have after : (relay.advance (.take (.unregister other) sender now)).registry =
              relay.registry.update other (·.deactivate) := rfl
          by_cases same : other = id
          · subst same
            rw [after, Registry.get?_update_self _ _ (·.deactivate) fun _ => rfl]
            cases relay.registry.get? other <;>
              simp [touched, Moment.shows, Moment.silences]
          · rw [after, Registry.get?_update_other _ same (·.deactivate) fun _ => rfl]
            exact (map_touched rfl (by simp [Moment.silences, same]) _).symm
      | register other =>
          by_cases same : other = id
          · subst same
            have asks : relay.dispatch (.register other) sender now =
                relay.register other sender now false := rfl
            rcases get?_advance_of_register sound asks (by simp [Moment.registers]) with
              ⟨registers, after⟩ | ⟨refused, unknown, after⟩
            · exact .inl ⟨registers, by simp [Moment.shows], sender, rfl, after⟩
            · exact .inr ⟨refused, by rw [after, unknown]; rfl⟩
          · refine .inr ⟨by simp [Moment.registers, same], ?_⟩
            refine (Registry.get?_register_other _ same sender now).trans ?_
            exact (map_touched (by simp [Moment.shows, same]) rfl _).symm
      | heartbeat other =>
          cases known : relay.registry.contains other with
          | true =>
              have after : (relay.advance (.take (.heartbeat other) sender now)).registry =
                  relay.registry.update other (·.beat now) := by
                simp [advance, dispatch, heartbeat, Registry.heartbeat, known]
              refine .inr ⟨?_, ?_⟩
              · by_cases same : other = id
                · subst same
                  simp [Moment.registers, known]
                · simp [Moment.registers, same]
              by_cases same : other = id
              · subst same
                rw [after, Registry.get?_update_self _ _ (·.beat now) fun _ => rfl]
                cases relay.registry.get? other <;>
                  simp [touched, Moment.shows, Moment.silences, Step.time]
              · rw [after, Registry.get?_update_other _ same (·.beat now) fun _ => rfl]
                exact (map_touched (by simp [Moment.shows, same]) rfl _).symm
          | false =>
              have unknown : relay.registry.get? other = none := by
                simpa [Registry.contains] using known
              cases policy : relay.unknownHeartbeat with
              | ignore =>
                  have after : (relay.advance (.take (.heartbeat other) sender now)).registry =
                      relay.registry := by
                    simp [advance, dispatch, heartbeat, Registry.heartbeat, known, policy]
                  refine .inr ⟨by simp [Moment.registers, policy], ?_⟩
                  rw [after]
                  by_cases same : other = id
                  · subst same
                    rw [unknown]
                    rfl
                  · exact (map_touched (by simp [Moment.shows, same]) rfl _).symm
              | register =>
                  have asks : relay.dispatch (.heartbeat other) sender now =
                      relay.register other sender now true := by
                    simp [dispatch, heartbeat, Registry.heartbeat, known, policy]
                  by_cases same : other = id
                  · subst same
                    rcases get?_advance_of_register sound asks
                        (by simp [Moment.registers, policy, known]) with
                      ⟨registers, after⟩ | ⟨refused, _, after⟩
                    · exact .inl ⟨registers, by simp [Moment.shows], sender, rfl, after⟩
                    · exact .inr ⟨refused, by rw [after, unknown]; rfl⟩
                  · have after :
                        (relay.advance (.take (.heartbeat other) sender now)).registry =
                          (relay.registry.register other sender now).1 := by
                      simp only [advance, asks, register]
                    refine .inr ⟨by simp [Moment.registers, same], ?_⟩
                    rw [after, Registry.get?_register_other _ same sender now]
                    exact (map_touched (by simp [Moment.shows, same]) rfl _).symm

/-! ## Whole runs -/

/-- What is known of a device is what the moments so far say of it. -/
structure Remembered
    (id : String)
    (timeout : Int)
    (moments : List Moment)
    (found : Option Record) : Prop where
  /-- It has a record if something registered it. -/
  known : found.isSome = moments.any (·.registers id)
  /-- The first registration is remembered. -/
  registeredAt : found.map (·.registeredAt) =
    (moments.find? (·.registers id)).map (·.step.time)
  /-- The address is that of the last registration. -/
  address : found.map (·.address) =
    (moments.reverse.find? (·.registers id)).bind (·.step.sender?)
  /-- Signs of life count from the first registration on. -/
  lastHeartbeat : found.map (·.lastHeartbeat) =
    ((moments.dropWhile fun moment => !moment.registers id).reverse.find?
      (·.shows id)).map (·.step.time)
  /-- It is active unless something deactivated it after the last registration. -/
  active : found.map (·.active) = found.map fun _ =>
    !(moments.reverse.takeWhile fun moment => !moment.registers id).any
      (·.silences id timeout)

theorem Remembered.unknown
    {id : String}
    {timeout : Int}
    {moments : List Moment}
    (remembered : Remembered id timeout moments none) :
    ∀ moment ∈ moments, moment.registers id = false := by
  simpa using remembered.known.symm

/-- A moment that registers the device. -/
theorem Remembered.registers
    {id : String}
    {timeout : Int}
    {moments : List Moment}
    {found : Option Record}
    (remembered : Remembered id timeout moments found)
    {moment : Moment}
    (registers : moment.registers id = true)
    (shows : moment.shows id = true)
    {sender : Endpoint}
    (sent : moment.step.sender? = some sender) :
    Remembered id timeout (moments ++ [moment])
      (some ((found.map (·.renew sender moment.step.time)).getD
        (.new id sender moment.step.time))) := by
  have last : (moments ++ [moment]).reverse = moment :: moments.reverse := by simp
  have begun : ∃ before, (moments ++ [moment]).dropWhile (fun moment => !moment.registers id) =
      before ++ [moment] := by
    rw [List.dropWhile_append]
    split
    · exact ⟨[], by simp [registers]⟩
    · exact ⟨_, rfl⟩
  obtain ⟨before, begun⟩ := begun
  refine ⟨by simp [registers], ?_, ?_, ?_, ?_⟩
  · cases found with
    | none =>
        have none : moments.find? (·.registers id) = none := by
          simpa using remembered.unknown
        simp [List.find?_append, none, registers, Record.new]
    | some record =>
        have first := remembered.registeredAt
        simp only [Option.map_some] at first
        rw [List.find?_append, Option.map_or, ← first]
        rfl
  · rw [last, List.find?_cons_of_pos registers]
    cases found <;> simp [sent, Record.new, Record.renew]
  · rw [begun]
    cases found <;> simp [shows, Record.new, Record.renew]
  · rw [last]
    cases found <;> simp [registers, Record.new, Record.renew]

/-- A moment that does not register the device. -/
theorem Remembered.touched
    {id : String}
    {timeout : Int}
    {moments : List Moment}
    {found : Option Record}
    (remembered : Remembered id timeout moments found)
    {moment : Moment}
    (registers : moment.registers id = false) :
    Remembered id timeout (moments ++ [moment]) (found.map (touched id timeout moment)) := by
  have last : (moments ++ [moment]).reverse = moment :: moments.reverse := by simp
  cases found with
  | none =>
      have unknown : ∀ other ∈ moments ++ [moment], other.registers id = false := by
        intro other member
        rcases List.mem_append.mp member with old | new
        · exact remembered.unknown other old
        · exact List.mem_singleton.mp new ▸ registers
      have first : (moments ++ [moment]).find? (·.registers id) = none :=
        List.find?_eq_none.mpr fun other member => by simp [unknown other member]
      have none : (moments ++ [moment]).reverse.find? (·.registers id) = none :=
        List.find?_eq_none.mpr fun other member => by
          simp [unknown other (List.mem_reverse.mp member)]
      have unbegun : (moments ++ [moment]).dropWhile (fun moment => !moment.registers id) = [] :=
        List.dropWhile_eq_nil_iff.mpr fun other member => by simp [unknown other member]
      refine ⟨?_, by simp [first], by rw [none]; rfl, by simp [unbegun], rfl⟩
      exact (List.any_eq_false.mpr fun other member => by simp [unknown other member]).symm
  | some record =>
      have begun : (moments ++ [moment]).dropWhile (fun moment => !moment.registers id) =
          moments.dropWhile (fun moment => !moment.registers id) ++ [moment] := by
        obtain ⟨other, member, does⟩ := List.any_eq_true.mp remembered.known.symm
        rw [List.dropWhile_append, if_neg]
        intro unbegun
        have never := List.dropWhile_eq_nil_iff.mp (List.isEmpty_iff.mp unbegun) other member
        simp [does] at never
      have kept : (Relay.touched id timeout moment record).registeredAt = record.registeredAt ∧
          (Relay.touched id timeout moment record).address = record.address := by
        unfold Relay.touched
        split <;> split <;> exact ⟨rfl, rfl⟩
      refine ⟨?_, ?_, ?_, ?_, ?_⟩
      · simpa [registers] using remembered.known
      · have first := remembered.registeredAt
        rw [Option.map_some] at first
        rw [List.find?_append, Option.map_or, ← first, Option.map_some, Option.map_some, kept.1]
        rfl
      · rw [last, List.find?_cons_of_neg (by simp [registers]), ← remembered.address]
        simp [kept.2]
      · have heard := remembered.lastHeartbeat
        rw [begun, List.reverse_append, List.reverse_singleton, List.singleton_append]
        cases shows : moment.shows id with
        | true =>
            rw [List.find?_cons_of_pos shows]
            simp only [Relay.touched, shows, Option.map_some]
            split <;> rfl
        | false =>
            rw [List.find?_cons_of_neg (by simp [shows]), ← heard]
            simp only [Relay.touched, shows, Option.map_some]
            split <;> rfl
      · have active := remembered.active
        simp only [Option.map_some, Option.some.injEq] at active
        simp only [last, List.takeWhile_cons, registers, Bool.not_false, if_true, List.any_cons,
          Option.map_some, Option.some.injEq, Bool.not_or, ← active]
        simp only [Relay.touched]
        split <;> split <;> simp_all [Record.deactivate, Record.beat]

/-- A device that has a record registers by `REGISTER` alone. -/
theorem eq_register_of_registers
    {relay : Relay}
    {step : Step}
    {id : String}
    {record : Record}
    (found : relay.registry.get? id = some record)
    (registers : Moment.registers id ⟨relay, step⟩ = true) :
    ∃ sender now, step = .take (.register id) sender now := by
  unfold Moment.registers at registers
  split at registers
  · rename_i other sender now same
    simp only [Bool.and_eq_true, beq_iff_eq] at registers
    exact ⟨sender, now, registers.1 ▸ same⟩
  · rename_i other sender now same
    simp only [Bool.and_eq_true, beq_iff_eq] at registers
    simp [Registry.contains, found] at registers
  · simp at registers

/-- An inactive device stays inactive while it does not register. -/
theorem stays_inactive
    {relay : Relay}
    (sound : relay.registry.Sound)
    {id : String}
    {record : Record}
    (found : relay.registry.get? id = some record)
    (inactive : record.active = false)
    (steps : List Step)
    (absent : ∀ sender now, .take (.register id) sender now ∉ steps) :
    ∃ later, (relay.run steps).registry.get? id = some later ∧ later.active = false := by
  induction steps generalizing relay record with
  | nil => exact ⟨record, found, inactive⟩
  | cons step steps ih =>
      rcases get?_advance sound step id with ⟨registers, _⟩ | ⟨_, after⟩
      · obtain ⟨sender, now, rfl⟩ := eq_register_of_registers found registers
        exact absurd List.mem_cons_self (absent sender now)
      · rw [found, Option.map_some] at after
        refine ih (sound_advance sound step) after ?_ fun sender now member =>
          absent sender now (List.mem_cons_of_mem step member)
        simp only [touched]
        split <;> split <;> simp_all [Record.deactivate, Record.beat]

/--
What a relay knows of a device is what the messages and sweeps since its start
say of it. Once deactivated, a device stays inactive, whatever arrives, until it
registers again.
-/
theorem membership_is_history
    (config : Config)
    (steps : List Step)
    (id : String) :
    Remembered id config.timing.livenessTimeout ((new config).moments steps)
      (((new config).run steps).registry.get? id) ∧
    ∀ more : List Step, (∀ sender now, .take (.register id) sender now ∉ more) ->
      ∀ record, ((new config).run steps).registry.get? id = some record ->
        record.active = false ->
        ∃ later, ((new config).run (steps ++ more)).registry.get? id = some later ∧
          later.active = false := by
  constructor
  · induction steps using List.reverseRecOn with
    | nil => exact ⟨rfl, rfl, rfl, rfl, rfl⟩
    | append_singleton steps step ih =>
        obtain ⟨sound, timeout⟩ := sound_run config steps
        rw [moments_concat, run_concat]
        rcases get?_advance sound step id with
          ⟨registers, shows, sender, sent, after⟩ | ⟨registers, after⟩
        · rw [after]
          exact ih.registers registers shows sent
        · rw [after, timeout]
          exact ih.touched registers
  · intro more absent record found inactive
    obtain ⟨sound, _⟩ := sound_run config steps
    have whole : (new config).run (steps ++ more) = ((new config).run steps).run more := by
      simp [run, List.foldl_append]
    rw [whole]
    exact stays_inactive sound found inactive more absent

end Relay
end CameraFleet
