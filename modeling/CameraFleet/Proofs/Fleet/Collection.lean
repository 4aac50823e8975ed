import CameraFleet.Proofs.Fleet.Answers

/-!
# Collecting replies

At rest the relay has no session to close, and its sweeps spare the workers, so that
the broadcast opens one session for all of them, and from then on answers come in.
In the end each worker's reply is shown once, and the session was closed for a
reason.
-/

namespace CameraFleet

open Device Relay Wire Worker

namespace Fleet

variable {places : List (Endpoint × String)} {fleet : Fleet}
variable {kind : Kind} {timeout : Int}

/-! ## Until the relay takes the broadcast -/

/-- The live devices are those at the places. -/
structure Fresh (places : List (Endpoint × String)) (now : Int) (registry : Registry) : Prop where
  present : ((registry.live now).map fun record => (record.address, record.id)).Perm places
  patient : 0 ≤ registry.livenessTimeout

/-- A sweep does not change which devices are live. -/
theorem Fresh.sweep
    {registry : Registry}
    {now : Int}
    (fresh : Fresh places now registry) :
    Fresh places now (registry.sweep now).1 := by
  refine ⟨?_, fresh.patient⟩
  have same : (registry.sweep now).1.live now = registry.live now := by
    rw [Registry.live, Registry.active_sweep]
    exact List.filter_eq_self.mpr fun record member => (List.mem_filter.mp member).2
  rw [same]
  exact fresh.present

/-- A device at a place is live, whatever record has its id. -/
theorem Fresh.live_of_id
    {registry : Registry}
    {now : Int}
    (fresh : Fresh places now registry)
    (sound : registry.Sound)
    {place : Endpoint × String}
    (member : place ∈ places)
    {record : Record}
    (known : record ∈ registry.records)
    (id : record.id = place.2) :
    record ∈ registry.live now := by
  obtain ⟨live, among, rfl⟩ := List.mem_map.mp (fresh.present.mem_iff.mpr member)
  have known' : live ∈ registry.records :=
    (List.mem_filter.mp (List.mem_filter.mp among).1).1
  rwa [List.inj_on_of_nodup_map sound.distinct known known' id]

/-- A heartbeat of a live device is a sign of life. -/
theorem Fresh.beat
    {registry : Registry}
    {now : Int}
    (fresh : Fresh places now registry)
    (sound : registry.Sound)
    {place : Endpoint × String}
    (member : place ∈ places) :
    Fresh places now (registry.update place.2 (·.beat now)) := by
  have live : (registry.update place.2 (·.beat now)).live now = (registry.live now).map
      fun record => if record.id = place.2 then record.beat now else record := by
    simp only [Registry.live, Registry.active, Registry.update, List.filter_map,
      List.filter_filter]
    congr 1
    refine List.filter_congr fun record known => ?_
    simp only [Function.comp]
    split
    · rename_i id
      have among := fresh.live_of_id sound member known id
      obtain ⟨active, recent⟩ := List.mem_filter.mp among
      have patient := fresh.patient
      simp_all [Record.beat, Registry.active]
    · rfl
  refine ⟨?_, fresh.patient⟩
  rw [live, List.map_map]
  refine List.Perm.trans (List.Perm.of_eq (List.map_congr_left fun record _ => ?_)) fresh.present
  simp only [Function.comp]
  split <;> rfl

/-- A fleet before the relay has taken the broadcast. -/
structure Asked
    (kind : Kind)
    (places : List (Endpoint × String))
    (timeout : Int)
    (fleet : Fleet) : Prop where
  common : Common places fleet
  somebody : places ≠ []
  idle : fleet.coordinator.relay.tally.current = none
  patience : fleet.coordinator.relay.tally.responseTimeout = timeout
  fresh : Fresh places fleet.now fleet.coordinator.relay.registry
  free : ∀ seat ∈ fleet.seats, seat.node.pending = []
  flies : ∃ beats room, 64 ≤ room ∧ (∀ parcel ∈ beats, Beat fleet.own places parcel) ∧
    fleet.flying.Perm (⟨fleet.desk, fleet.own, .request kind, room⟩ :: beats)
  unopened : openings fleet.log = []
  unclosed : closings fleet.log = []
  unheard : fleet.replies = []
  unshown : fleet.shown = []
  uncounted : fleet.controller.replies = 0

/-- A worker may speak, but it has no answer to give. -/
theorem Asked.beats
    (asked : Asked kind places timeout fleet)
    {early late : List Seat}
    {seat : Seat}
    (sits : fleet.seats = early ++ seat :: late)
    {input : Node.Input}
    (goes : input.isStop = false)
    (same : (seat.node.act input).1.pending = seat.node.pending)
    (beats : Node.OnlyBeats seat.node (seat.node.act input).2) :
    Asked kind places timeout (fleet.seatDoes early late seat.here (seat.node.act input)) := by
  have common := asked.common
  have member : seat ∈ fleet.seats := by simp [sits]
  have works := common.works seat member
  obtain ⟨others, room, roomy, all, perm⟩ := asked.flies
  refine { asked with
    common := common.seatDoes sits input goes
    free := fun other among => ?_
    flies := ⟨others ++ parcels seat.here (seat.node.act input), room, roomy, ?_, ?_⟩ }
  · rcases mem_seats_of_seatDoes sits among with old | rfl
    · exact asked.free other old
    · exact same.trans (asked.free seat member)
  · intro parcel among
    rcases List.mem_append.mp among with old | new
    · exact all parcel old
    · obtain ⟨sent, spoken, rfl⟩ := List.mem_map.mp new
      refine ⟨_, _, _, common.place member, works.room, ?_⟩
      rw [beats sent spoken, works.home, Node.act_config]
      rfl
  · exact perm.append_right (parcels seat.here (seat.node.act input))

/-- A tick finds nothing to do. -/
theorem Asked.ticks
    (asked : Asked kind places timeout fleet)
    {result : Coordinator.Result}
    (ticks : fleet.coordinator.Ticks fleet.now result) :
    Asked kind places timeout (fleet.relayDoes result) := by
  have same : fleet.coordinator.relay.tally.expire fleet.now =
      (fleet.coordinator.relay.tally, none) := by simp [Tally.expire, asked.idle]
  have fresh : Fresh places fleet.now result.coordinator.relay.registry := by
    rcases ticks.registry with same | swept
    · exact same ▸ asked.fresh
    · exact swept ▸ asked.fresh.sweep
  have tally := ticks.tally
  have closes := ticks.closes
  rw [same] at tally closes
  obtain ⟨opens', closes'⟩ := lists_append fleet.log fleet.now result.events
  have flying : (fleet.relayDoes result).flying = fleet.flying := by
    simp [Fleet.relayDoes, ticks.silent]
  refine { asked with
    common := asked.common.ticks ticks
    idle := ?_
    patience := ?_
    fresh := fresh
    flies := ?_
    unopened := ?_
    unclosed := ?_ }
  · exact (congrArg (·.current) tally).trans asked.idle
  · exact (congrArg (·.responseTimeout) tally).trans asked.patience
  · rw [flying]
    exact asked.flies
  · exact opens'.trans (by rw [ticks.opens, asked.unopened]; rfl)
  · exact closes'.trans (by rw [closes, asked.unclosed]; rfl)

/-- The relay takes a heartbeat of a worker. -/
theorem Asked.takesHeartbeat
    (asked : Asked kind places timeout fleet)
    {before after : List Parcel}
    {here : Endpoint}
    {id : String}
    {room : Int}
    (place : (here, id) ∈ places)
    (roomy : 64 ≤ room)
    (rest : ∃ beats room, 64 ≤ room ∧ (∀ parcel ∈ beats, Beat fleet.own places parcel) ∧
      (before ++ after).Perm (⟨fleet.desk, fleet.own, .request kind, room⟩ :: beats)) :
    Asked kind places timeout
      (((fleet.without (before ++ after)).noting (encode (.heartbeat id) room)).relayDoes
        (fleet.coordinator.receive (encode (.heartbeat id) room) here fleet.now)) := by
  have common := asked.common
  obtain ⟨read, relay, out, events⟩ := common.hears place roomy
  have received := common.receives read here (before ++ after)
  have replies (result : Coordinator.Result) :
      (((fleet.without (before ++ after)).noting (encode (.heartbeat id) room)).relayDoes
        result).replies = fleet.replies := by
    simp [Fleet.replies, Fleet.relayDoes, Fleet.noting, Fleet.without, read, Except.toOption,
      reply?]
  generalize fleet.coordinator.receive (encode (.heartbeat id) room) here fleet.now =
    result at relay out events received ⊢
  obtain ⟨opens', closes'⟩ := lists_append fleet.log fleet.now result.events
  rw [events] at opens' closes'
  refine { asked with
    common := received
    idle := ?_
    patience := ?_
    fresh := ?_
    flies := ?_
    unopened := ?_
    unclosed := ?_
    unheard := (replies result).trans asked.unheard }
  · exact (congrArg (·.tally.current) relay).trans asked.idle
  · exact (congrArg (·.tally.responseTimeout) relay).trans asked.patience
  · show Fresh places fleet.now result.coordinator.relay.registry
    rw [relay]
    exact asked.fresh.beat common.sound place
  · have flying : (((fleet.without (before ++ after)).noting
        (encode (.heartbeat id) room)).relayDoes result).flying = before ++ after := by
      simp [Fleet.relayDoes, Fleet.noting, Fleet.without, out]
    rw [flying]
    exact rest
  · show openings (fleet.log ++ result.events.map (fleet.now, ·)) = []
    rw [events, opens', asked.unopened]
    rfl
  · show closings (fleet.log ++ result.events.map (fleet.now, ·)) = []
    rw [events, closes', asked.unclosed]
    simp [Event.closed?]

/-- The relay takes the broadcast and sends it to every worker. -/
theorem Asked.takesRequest
    (asked : Asked kind places timeout fleet)
    {before after : List Parcel}
    {room : Int}
    (roomy : 64 ≤ room)
    (rest : ∀ parcel ∈ before ++ after, Beat fleet.own places parcel) :
    ∃ opened, Collecting kind places timeout opened
      (((fleet.without (before ++ after)).noting (encode (.request kind) room)).relayDoes
        (fleet.coordinator.receive (encode (.request kind) room) fleet.desk fleet.now)) := by
  have common := asked.common
  have fresh := asked.fresh
  have present : ((fleet.coordinator.relay.registry.live fleet.now).map (·.id)).Perm
      (places.map (·.2)) := by
    simpa [List.map_map, Function.comp_def] using fresh.present.map (·.2)
  have somebody : fleet.coordinator.relay.registry.live fleet.now ≠ [] := by
    rintro none
    have empty := fresh.present
    rw [none] at empty
    exact asked.somebody empty.nil_eq.symm
  have read := receive_encode_of_request roomy common.relayRoom kind
  obtain ⟨relay, out, events⟩ :=
    Coordinator.receive_of_ok common.running read fleet.desk fleet.now
  have received := common.receives read fleet.desk (before ++ after)
  obtain ⟨opened, shape, current, requester, outs, begins, ends⟩ :=
    dispatch_request_of_idle asked.idle somebody kind fleet.desk
  rw [outs] at out
  rw [← events] at begins ends
  have size : (fleet.coordinator.relay.registry.live fleet.now).length =
      (places.map (·.2)).length := by
    simpa using present.length_eq
  have opens : Opened fleet.desk kind (places.map (·.2)) timeout opened := by
    subst shape
    exact ⟨rfl, rfl, by rw [← asked.patience]; rfl, present, by simpa [Session.new] using size⟩
  have unanswered : opened = answered opened (devices []) := by
    subst shape
    rfl
  have began : opened.startedAt = fleet.now := by
    subst shape
    rfl
  have replies (result : Coordinator.Result) :
      (((fleet.without (before ++ after)).noting (encode (.request kind) room)).relayDoes
        result).replies = [] := by
    rw [← asked.unheard]
    simp [Fleet.replies, Fleet.relayDoes, Fleet.noting, Fleet.without, read, Except.toOption,
      reply?]
  have roomy' : (64 : Int) ≤ (fleet.coordinator.receive
      (encode (.request kind) room) fleet.desk fleet.now).coordinator.config.maxMessageBytes :=
    received.relayRoom
  have current' := (congrArg (·.tally.current) relay).trans current
  have requester' := (congrArg (·.tally.lastRequester) relay).trans requester
  generalize fleet.coordinator.receive (encode (.request kind) room) fleet.desk fleet.now =
    result at out begins ends received roomy' current' requester' ⊢
  obtain ⟨opens', closes'⟩ := lists_append fleet.log fleet.now result.events
  have flying : (((fleet.without (before ++ after)).noting
      (encode (.request kind) room)).relayDoes result).flying =
      (before ++ after) ++ sends fleet.own result := rfl
  have sent : sends fleet.own result =
      (fleet.coordinator.relay.registry.live fleet.now).map fun record =>
        ⟨fleet.own, record.address, .request kind, result.coordinator.config.maxMessageBytes⟩ := by
    rw [sends, out, List.map_map]
    rfl
  have resting : fleet.seats.flatMap working = [] :=
    List.flatMap_eq_nil_iff.mpr fun seat member => by simp [working, asked.free seat member]
  have beats : (before ++ after).flatMap (token places) = [] ∧
      (before ++ after).flatMap (onward fleet.own) = [] := by
    constructor <;> refine List.flatMap_eq_nil_iff.mpr fun parcel member => ?_ <;>
      obtain ⟨here, id, room, _, _, rfl⟩ := rest parcel member <;> rfl
  have asks : (sends fleet.own result).flatMap (token places) =
      (fleet.coordinator.relay.registry.live fleet.now).map (·.id) := by
    rw [sent, List.flatMap_map, List.map_eq_flatMap]
    refine List.flatMap_congr fun record member => ?_
    have place := fresh.present.mem_iff.mp (List.mem_map.mpr ⟨record, member, rfl⟩)
    simp [token, lookup_of_mem common.heres place]
  have untaken : (sends fleet.own result).flatMap (onward fleet.own) = [] := by
    rw [sent, List.flatMap_map]
    exact List.flatMap_eq_nil_iff.mpr fun record _ => rfl
  refine ⟨opened, {
    common := received
    opens := opens
    opening := ?_
    asked := requester'
    progress := ?_
    fair := fun parcel among => ?_
    jobs := fun seat member job pending => ?_
    kept := ?_
    heard := ?_
    answers := fun shown member => ?_
    count := asked.uncounted.trans (congrArg List.length asked.unshown).symm }⟩
  · show openings (fleet.log ++ result.events.map (fleet.now, ·)) =
      [(opened.startedAt, opened)]
    rw [opens', asked.unopened, begins, began]
    rfl
  · rw [replies result]
    refine .collecting (current'.trans (congrArg some unanswered)) (by simp) ?_ ?_
    · exact List.length_pos_iff.mpr fun none => asked.somebody (List.map_eq_nil_iff.mp none)
    · show closings (fleet.log ++ result.events.map (fleet.now, ·)) = []
      rw [closes', asked.unclosed, ends]
      rfl
  · rw [flying] at among
    rcases List.mem_append.mp among with old | new
    · obtain ⟨here, id, room, place, roomy, rfl⟩ := rest parcel old
      exact .heartbeat place roomy
    · rw [sent] at new
      obtain ⟨record, member, rfl⟩ := List.mem_map.mp new
      exact .request (fresh.present.mem_iff.mp (List.mem_map.mpr ⟨record, member, rfl⟩)) roomy'
  · rw [asked.free seat member] at pending
    simp at pending
  · have unshown : (((fleet.without (before ++ after)).noting
        (encode (.request kind) room)).relayDoes result).shown = [] := asked.unshown
    have seats : (((fleet.without (before ++ after)).noting
        (encode (.request kind) room)).relayDoes result).seats = fleet.seats := rfl
    rw [tokens, flying, unshown, seats, resting, List.flatMap_append, beats.1, asks]
    simpa using present
  · have unshown : (((fleet.without (before ++ after)).noting
        (encode (.request kind) room)).relayDoes result).shown = [] := asked.unshown
    have same : (((fleet.without (before ++ after)).noting
        (encode (.request kind) room)).relayDoes result).own = fleet.own := rfl
    rw [replies result, taken, flying, unshown, same, List.flatMap_append, beats.2, untaken]
    exact .refl _
  · have unshown : shown ∈ fleet.shown := member
    rw [asked.unshown] at unshown
    simp at unshown

/-- The relay takes the broadcast, or nothing has changed. -/
theorem Asked.step
    (asked : Asked kind places timeout fleet)
    {next : Fleet}
    (step : Step fleet next) :
    Asked kind places timeout next ∨ ∃ opened, Collecting kind places timeout opened next := by
  have common := asked.common
  obtain ⟨beats, room, roomy, all, perm⟩ := asked.flies
  have goals {parcel : Parcel} (member : parcel ∈ fleet.flying) : parcel.target = fleet.own := by
    rcases List.mem_cons.mp (perm.mem_iff.mp member) with rfl | old
    · rfl
    · obtain ⟨here, id, room, _, _, rfl⟩ := all parcel old
      rfl
  cases step with
  | relayTimer held due =>
      exact .inl (asked.ticks (Coordinator.ticks_goOff common.running _ fleet.now))
  | relayTicks => exact .inl (asked.ticks (Coordinator.ticks_tick common.running fleet.now))
  | workerCalled sits called =>
      rename_i early late seat input
      have member : seat ∈ fleet.seats := by simp [sits]
      have works := common.works seat member
      rcases Node.act_called works.goes works.begun called with
        ⟨same, beats⟩ | ⟨number, job, payload, found, _⟩
      · exact .inl (asked.beats sits called.goes same beats)
      · rw [asked.free seat member] at found
        simp at found
  | workerTimer sits held past =>
      rename_i early late seat due
      obtain ⟨same, beats⟩ := Node.act_fire seat.node fleet.now none
      exact .inl (asked.beats sits rfl same beats)
  | toRelay flies target =>
      rename_i before after parcel
      have shorter : (parcel :: (before ++ after)).Perm
          (⟨fleet.desk, fleet.own, .request kind, room⟩ :: beats) :=
        (List.perm_middle.symm.trans (.of_eq flies.symm)).trans perm
      rcases List.mem_cons.mp (shorter.mem_iff.mp List.mem_cons_self) with rfl | old
      · exact .inr (asked.takesRequest roomy fun other member =>
          all other (shorter.cons_inv.mem_iff.mp member))
      · obtain ⟨others, split⟩ : ∃ others, beats.Perm (parcel :: others) :=
          ⟨beats.erase parcel, List.perm_cons_erase old⟩
        obtain ⟨here, id, room', place, roomy', rfl⟩ := all parcel old
        refine .inl (asked.takesHeartbeat place roomy' ⟨others, room, roomy, fun other member =>
          all other (split.mem_iff.mpr (List.mem_cons_of_mem _ member)), ?_⟩)
        exact (shorter.trans ((split.cons _).trans (.swap ..))).cons_inv
  | toWorker flies sits target =>
      rename_i before after parcel early late seat
      have away := common.apart _ (common.place (show seat ∈ fleet.seats by simp [sits]))
      exact absurd (target.symm.trans (goals (by simp [flies]))) away.1
  | toDesk flies target =>
      exact absurd (target.symm.trans (goals (by simp [flies]))) common.deskApart
  | wait order prompt =>
      have same := prompt _ (perm.mem_iff.mpr List.mem_cons_self) rfl
      exact .inl { asked with
        common := { common with }
        fresh := ⟨by rw [same]; exact asked.fresh.present, asked.fresh.patient⟩ }

/-- The controller of a fleet at rest has asked. -/
theorem Ready.asked (ready : fleet.Ready) (kind : Kind) :
    Asked kind fleet.roster fleet.coordinator.relay.tally.responseTimeout
      (fleet.asks kind) := by
  have ids : fleet.roster.map (·.2) = fleet.seats.map (·.node.id) := by
    simp [roster, List.map_map, Function.comp_def]
  have heres : fleet.roster.map (·.1) = fleet.seats.map (·.here) := by
    simp [roster, List.map_map, Function.comp_def]
  obtain ⟨unlogged, unreached, unshown⟩ := ready.blank
  have seated {place : Endpoint × String} (member : place ∈ fleet.roster) :
      ∃ seat ∈ fleet.seats, place = (seat.here, seat.node.id) := by
    obtain ⟨seat, sits, same⟩ := List.mem_map.mp member
    exact ⟨seat, sits, same.symm⟩
  have known : ∀ place ∈ fleet.roster,
      fleet.coordinator.relay.registry.contains place.2 = true := by
    intro place member
    obtain ⟨record, live, rfl⟩ := List.mem_map.mp (ready.present.mem_iff.mpr member)
    refine (Registry.contains_iff _ _).mpr (List.mem_map.mpr ⟨record, ?_, rfl⟩)
    exact (List.mem_filter.mp (List.mem_filter.mp live).1).1
  have common : Common fleet.roster (fleet.asks kind) :=
    { running := ready.running
      sound := ready.sound
      relayRoom := ready.relayRoom
      deskRoom := ready.deskRoom
      deskApart := ready.deskApart
      placed := rfl
      works := ready.works
      apart := fun place member => by
        obtain ⟨seat, sits, rfl⟩ := seated member
        exact ready.apart seat sits
      heres := heres ▸ ready.heres
      ids := ids ▸ ready.ids
      valid := fun place member =>
        ready.sound.valid _ ((Registry.contains_iff _ _).mp (known place member))
      known := known }
  exact
    { common := common
      somebody := fun none => ready.somebody (List.map_eq_nil_iff.mp none)
      idle := ready.idle
      patience := rfl
      fresh := ⟨ready.present, ready.patient⟩
      free := ready.free
      flies := by
        refine ⟨fleet.flying, fleet.controller.maxMessageBytes, ready.deskRoom, ready.quiet, ?_⟩
        show (fleet.flying ++ [(⟨fleet.desk, fleet.controller.relay, .request kind,
          fleet.controller.maxMessageBytes⟩ : Parcel)]).Perm _
        rw [ready.home]
        exact List.perm_append_singleton _ _
      unopened := congrArg openings unlogged
      unclosed := congrArg closings unlogged
      unheard := congrArg (List.filterMap reply?) unreached
      unshown := by
        show fleet.shown ++ [] = []
        rw [unshown]
        rfl
      uncounted := rfl }

/-- After the broadcast the relay has yet to take it, or answers come in. -/
theorem asked_or_collecting
    (ready : fleet.Ready)
    {later : Fleet}
    (runs : Runs (fleet.asks kind) later) :
    Asked kind fleet.roster fleet.coordinator.relay.tally.responseTimeout later ∨
    ∃ opened, Collecting kind fleet.roster
      fleet.coordinator.relay.tally.responseTimeout opened later := by
  induction runs with
  | refl => exact .inl (ready.asked kind)
  | tail _ step ih =>
      rcases ih with asked | ⟨opened, collecting⟩
      · exact asked.step step
      · exact .inr ⟨opened, collecting.step step⟩

/-- What is shown is told by the devices that it is of. -/
theorem answers_of_shown
    {kind : Kind}
    {shown : List Display}
    (answers : ∀ display ∈ shown, ∃ id, answer? display = some (kind, id)) :
    shown.map answer? = (shown.flatMap device).map (fun id => some (kind, id)) ∧
    (shown.flatMap device).length = shown.length := by
  induction shown with
  | nil => exact ⟨rfl, rfl⟩
  | cons display shown ih =>
      obtain ⟨id, answer⟩ := answers display List.mem_cons_self
      obtain ⟨same, size⟩ := ih fun other member => answers other (List.mem_cons_of_mem _ member)
      have own : device display = [id] := by rw [device, answer]; rfl
      constructor
      · rw [List.map_cons, List.flatMap_cons, List.map_append, own, same, answer]
        rfl
      · rw [List.flatMap_cons, List.length_append, own, size, List.length_cons]
        exact Nat.add_comm _ _

/--
A controller that asks a fleet at rest is shown one reply of each worker, of the
kind that it asked for, once no command runs and nothing is on its way, whatever
the commands do and however long they and the datagrams take. The relay opens one
session for the broadcast and closes it once: it is complete if the replies of all
workers have reached the relay before its deadline, and else it times out.
-/
theorem collection_is_complete
    {fleet : Fleet}
    (ready : fleet.Ready)
    (kind : Kind)
    {later : Fleet}
    (runs : Runs (fleet.asks kind) later)
    (settled : later.Settled) :
    (later.shown.map answer?).Perm (fleet.seats.map fun seat => some (kind, seat.node.id)) ∧
    later.controller.replies = fleet.seats.length ∧
    (later.replies.map (·.2.2)).Perm (fleet.seats.map (·.node.id)) ∧
    ∃ began opened closed, openings later.log = [(began, opened)] ∧ opened.kind = kind ∧
      opened.requester = fleet.desk ∧
      opened.deadline = began + fleet.coordinator.relay.tally.responseTimeout ∧
      opened.targets.Perm (fleet.seats.map (·.node.id)) ∧ closed.id = opened.id ∧
      ((∀ reply ∈ later.replies, reply.1 < opened.deadline) ->
        closings later.log = [.completed closed]) ∧
      ((∃ reply ∈ later.replies, opened.deadline ≤ reply.1) ->
        closings later.log = [.timedOut closed]) := by
  have ids : fleet.roster.map (·.2) = fleet.seats.map (·.node.id) := by
    simp [roster, List.map_map, Function.comp_def]
  rcases asked_or_collecting ready runs with asked | ⟨opened, collecting⟩
  · obtain ⟨beats, room, _, _, perm⟩ := asked.flies
    rw [settled.quiet] at perm
    exact absurd perm.length_eq (by simp)
  · have resting : later.seats.flatMap working = [] :=
      List.flatMap_eq_nil_iff.mpr fun seat member => by simp [working, settled.free seat member]
    have shown : (later.shown.flatMap device).Perm (fleet.seats.map (·.node.id)) := by
      have kept := collecting.kept
      rwa [tokens, settled.quiet, resting, ids] at kept
    have heard : (devices later.replies).Perm (fleet.seats.map (·.node.id)) := by
      have heard := collecting.heard
      rw [taken, settled.quiet] at heard
      exact heard.trans shown
    obtain ⟨answers, size⟩ := answers_of_shown collecting.answers
    have all : later.replies.length = (fleet.roster.map (·.2)).length := by
      have same := heard.length_eq
      rwa [devices, List.length_map, ← ids] at same
    refine ⟨?_, ?_, heard, ?_⟩
    · rw [answers]
      simpa [List.map_map, Function.comp_def] using shown.map fun id => some (kind, id)
    · rw [collecting.count, ← size, shown.length_eq, List.length_map]
    · have targets := ids ▸ collecting.opens.targets
      have requester := collecting.opens.requester.trans (desk_of_runs runs)
      cases collecting.progress with
      | collecting current early few unclosed => omega
      | completed current early all closed name =>
          refine ⟨_, opened, _, collecting.opening, collecting.opens.kind, requester,
            collecting.opens.deadline, targets, name, fun _ => closed, ?_⟩
          rintro ⟨reply, member, late⟩
          exact absurd (early reply member) (Int.not_lt.mpr late)
      | timedOut current past few closed name =>
          refine ⟨_, opened, _, collecting.opening, collecting.opens.kind, requester,
            collecting.opens.deadline, targets, name, ?_, fun _ => closed⟩
          intro early
          have whole : later.replies.filter (·.1 < opened.deadline) = later.replies :=
            List.filter_eq_self.mpr fun reply member => by simpa using early reply member
          rw [whole] at few
          omega

/-! ## A run in which a reply is late -/

/-- The oldest datagram on its way is delivered, if there is somebody to take it. -/
def delivers (fleet : Fleet) : Fleet :=
  match fleet.flying with
  | [] => fleet
  | parcel :: rest =>
      if parcel.target = fleet.own then
        ((fleet.without rest).noting parcel.bytes).relayDoes
          (fleet.coordinator.receive parcel.bytes parcel.source fleet.now)
      else if parcel.target = fleet.desk then
        (fleet.without rest).deskDoes
          (fleet.controller.receive parcel.bytes parcel.source fleet.now)
      else
        let early := fleet.seats.takeWhile (·.here != parcel.target)
        match fleet.seats.dropWhile (·.here != parcel.target) with
        | [] => fleet
        | seat :: late =>
            (fleet.without rest).seatDoes early late seat.here
              (seat.node.act (.receive parcel.bytes parcel.source fleet.now none))

/-- The command of a job of a worker has ended. -/
def ends (fleet : Fleet) (index number : Nat) (result : Except String RunResult) : Fleet :=
  match fleet.seats.drop index with
  | [] => fleet
  | seat :: late =>
      fleet.seatDoes (fleet.seats.take index) late seat.here
        (seat.node.act (.finish number result none))

/-- Deliveries are steps. -/
theorem runs_delivers (fleet : Fleet) : Runs fleet fleet.delivers := by
  unfold delivers
  split
  · exact .refl
  · rename_i parcel rest flies
    split
    · rename_i target
      exact .single (@Step.toRelay _ [] rest parcel flies target)
    · split
      · rename_i target
        exact .single (@Step.toDesk _ [] rest parcel flies target)
      · split
        · exact .refl
        · rename_i seat late found
          have sits : fleet.seats =
              fleet.seats.takeWhile (·.here != parcel.target) ++ seat :: late := by
            rw [← found, List.takeWhile_append_dropWhile]
          have target : seat.here = parcel.target := by
            have stops := fleet.seats.head?_dropWhile_not (·.here != parcel.target)
            rw [found] at stops
            simpa using stops
          exact .single (@Step.toWorker _ [] rest parcel _ late seat flies sits target.symm)

/-- So is the end of a job. -/
theorem runs_ends
    (fleet : Fleet)
    (index number : Nat)
    (result : Except String RunResult) :
    Runs fleet (fleet.ends index number result) := by
  unfold ends
  split
  · exact .refl
  · rename_i seat late rest
    have sits : fleet.seats = fleet.seats.take index ++ seat :: late := by
      rw [← rest, List.take_append_drop]
    exact .single (.workerCalled sits (.finish number result))

/-- Where the relay is. -/
def relayHere : Endpoint := ⟨"10.0.0.1", 8080⟩

/-- Where the controller is. -/
def deskHere : Endpoint := ⟨"10.0.0.2", 5000⟩

/-- A worker that the relay has accepted. -/
def accepted (here : Endpoint) (id : String) : Seat :=
  ⟨here, (((Node.new id relayHere {}).act (.start 0 none)).1.act
    (.receive (encode (.registered "OK") 1024) relayHere 0 none)).1⟩

/-- Two workers. -/
def both : List Seat :=
  [accepted ⟨"10.0.0.3", 4000⟩ "cam-1", accepted ⟨"10.0.0.4", 4000⟩ "cam-2"]

/-- They have registered, and nothing has happened since. -/
def resting : Fleet where
  now := 0
  own := relayHere
  desk := deskHere
  coordinator := both.foldl
    (fun coordinator seat =>
      (coordinator.receive (encode (.register seat.node.id) 1024) seat.here 0).coordinator)
    ((Coordinator.new {} relayHere).start 0).coordinator
  controller := { relay := relayHere, maxMessageBytes := 1024 }
  seats := both

/-- Both list their files, and the controller is shown what the first one has found. -/
def halfway : Fleet :=
  ((resting.asks .listing).delivers.delivers.delivers.ends 0 0
    (.ok { exitCode := some 0, output := "a.jpg" })).delivers.delivers

/-- The command of the second one fails, and the controller is shown that as well. -/
def afterwards (fleet : Fleet) : Fleet :=
  (fleet.ends 1 0 (.error "no such file")).delivers.delivers

/-- It fails at once. -/
def quick : Fleet :=
  halfway.afterwards

/-- It fails two seconds later. -/
def slow : Fleet :=
  { halfway with now := 2000 }.afterwards

theorem ready_resting : resting.Ready where
  running := by decide +kernel
  idle := by decide +kernel
  sound := ⟨by decide +kernel, by decide +kernel, by decide +kernel⟩
  patient := by decide +kernel
  relayRoom := by decide +kernel
  deskRoom := by decide +kernel
  home := rfl
  deskApart := by decide
  apart := by decide +kernel
  heres := by decide +kernel
  ids := by decide +kernel
  somebody := by simp [resting, both]
  works := by
    have all : ∀ seat ∈ resting.seats, seat.node.relay = relayHere ∧
        seat.node.stopped = false ∧ seat.node.started = true ∧
        (64 : Int) ≤ seat.node.config.maxMessageBytes := by decide +kernel
    exact fun seat sits =>
      ⟨(all seat sits).1, (all seat sits).2.1, (all seat sits).2.2.1, (all seat sits).2.2.2⟩
  free := by decide +kernel
  present := by decide +kernel
  quiet := by simp [resting]
  blank := ⟨rfl, rfl, rfl⟩

/-- What the first worker has found is shown at once. -/
theorem runs_halfway : Runs (resting.asks .listing) halfway :=
  (((((runs_delivers _).trans (runs_delivers _)).trans (runs_delivers _)).trans
    (runs_ends _ 0 0 _)).trans (runs_delivers _)).trans (runs_delivers _)

theorem runs_afterwards (fleet : Fleet) : Runs fleet fleet.afterwards :=
  ((runs_ends _ 1 0 _).trans (runs_delivers _)).trans (runs_delivers _)

/-- The reply of the second worker is in time if it comes at once, and late after two seconds. It is
shown in both runs, and the session is complete in the first and times out in the second. -/
theorem collection_is_complete_two_workers :
    resting.Ready ∧
    Runs (resting.asks .listing) quick ∧ quick.Settled ∧
    (∃ closed, closings quick.log = [.completed closed]) ∧
    Runs (resting.asks .listing) slow ∧ slow.Settled ∧
    (slow.shown.map answer?).Perm [some (.listing, "cam-1"), some (.listing, "cam-2")] ∧
    slow.controller.replies = 2 ∧
    ∃ closed, closings slow.log = [.timedOut closed] := by
  have soon : Runs (resting.asks .listing) quick :=
    runs_halfway.trans (runs_afterwards halfway)
  have quiet : halfway.flying = [] ∧ halfway.now ≤ 2000 := by decide +kernel
  have later : Runs (resting.asks .listing) slow :=
    (runs_halfway.tail (.wait quiet.2 (by simp [quiet.1]))).trans (runs_afterwards _)
  have patience : resting.coordinator.relay.tally.responseTimeout = 2000 := by decide +kernel
  -- The sessions of both runs are opened at time 0.
  have ended : quick.flying = [] ∧ (∀ seat ∈ quick.seats, seat.node.pending = []) ∧
      (openings quick.log).map (·.1) = [0] ∧ ∀ reply ∈ quick.replies, reply.1 < 0 + 2000 := by
    decide +kernel
  have ended' : slow.flying = [] ∧ (∀ seat ∈ slow.seats, seat.node.pending = []) ∧
      (openings slow.log).map (·.1) = [0] ∧ ∃ reply ∈ slow.replies, 0 + 2000 ≤ reply.1 := by
    decide +kernel
  obtain ⟨flown, done, start, early⟩ := ended
  obtain ⟨flown', done', start', behind⟩ := ended'
  obtain ⟨_, _, _, began, _, closed, opening, _, _, due, _, _, complete, _⟩ :=
    collection_is_complete ready_resting .listing soon ⟨flown, done⟩
  obtain ⟨shown, count, _, began', _, closed', opening', _, _, due', _, _, _, late⟩ :=
    collection_is_complete ready_resting .listing later ⟨flown', done'⟩
  rw [opening] at start
  rw [opening'] at start'
  obtain rfl : began = 0 := List.head_eq_of_cons_eq start
  obtain rfl : began' = 0 := List.head_eq_of_cons_eq start'
  rw [due, patience] at complete
  rw [due', patience] at late
  exact ⟨ready_resting, soon, ⟨flown, done⟩, ⟨closed, complete early⟩, later, ⟨flown', done'⟩,
    shown, count, ⟨closed', late behind⟩⟩

end Fleet
end CameraFleet
