import CameraFleet.Proofs.Fleet.Session
import CameraFleet.Proofs.Relay.Seen
import CameraFleet.Proofs.Wire.Hops
import Mathlib.Data.List.Perm.Subperm

/-!
# Answers

A broadcast makes a token for each worker: the broadcast on its way, the job that
it begins, the reply on its way to the relay, the same on its way to the
controller, and what is shown. No step makes or loses a token, and the relay takes
each of them once.
-/

namespace CameraFleet

open Device Relay Wire Worker

namespace Fleet

/-! ## The parties -/

/-- The parties are at their places, and able to do what they must. -/
structure Common (places : List (Endpoint × String)) (fleet : Fleet) : Prop where
  running : fleet.coordinator.running = true
  sound : fleet.coordinator.relay.registry.Sound
  relayRoom : (64 : Int) ≤ fleet.coordinator.config.maxMessageBytes
  deskRoom : 64 ≤ fleet.controller.maxMessageBytes
  deskApart : fleet.desk ≠ fleet.own
  placed : fleet.roster = places
  works : ∀ seat ∈ fleet.seats, seat.Works fleet.own
  apart : ∀ place ∈ places, place.1 ≠ fleet.own ∧ place.1 ≠ fleet.desk
  heres : (places.map (·.1)).Nodup
  ids : (places.map (·.2)).Nodup
  valid : ∀ place ∈ places, ValidId place.2
  known : ∀ place ∈ places, fleet.coordinator.relay.registry.contains place.2 = true

variable {places : List (Endpoint × String)} {fleet : Fleet}

/-- A step of the relay that keeps the registry and the configuration keeps all this. -/
theorem Common.relayDoes
    (common : Common places fleet)
    {result : Coordinator.Result}
    (running : result.coordinator.running = true)
    (config : result.coordinator.config = fleet.coordinator.config)
    (sound : result.coordinator.relay.registry.Sound)
    (known : ∀ id, fleet.coordinator.relay.registry.contains id = true ->
      result.coordinator.relay.registry.contains id = true) :
    Common places (fleet.relayDoes result) :=
  { common with
    running := running
    sound := sound
    relayRoom := by
      show (64 : Int) ≤ result.coordinator.config.maxMessageBytes
      exact config ▸ common.relayRoom
    known := fun place member => known _ (common.known place member) }

/-- No step removes a device from the registry. -/
theorem contains_of_ticks
    {coordinator : Coordinator}
    {now : Int}
    {result : Coordinator.Result}
    (sound : coordinator.relay.registry.Sound)
    (ticks : coordinator.Ticks now result) :
    result.coordinator.relay.registry.Sound ∧
    ∀ id, coordinator.relay.registry.contains id = true ->
      result.coordinator.relay.registry.contains id = true := by
  rcases ticks.registry with same | swept
  · exact ⟨same ▸ sound, fun id known => same ▸ known⟩
  · refine ⟨swept ▸ sound.apply (.sweep now _), fun id known => ?_⟩
    rw [swept, Registry.sweep, Registry.contains, Registry.get?_sweepWith, Option.isSome_map]
    exact known

theorem contains_advance
    {relay : Relay}
    (sound : relay.registry.Sound)
    (step : Relay.Step)
    {id : String}
    (known : relay.registry.contains id = true) :
    (relay.advance step).registry.contains id = true := by
  rcases get?_advance sound step id with ⟨_, _, sender, _, after⟩ | ⟨_, after⟩
  · rw [Registry.contains, after]
    rfl
  · rw [Registry.contains, after, Option.isSome_map]
    exact known

theorem Common.ticks
    (common : Common places fleet)
    {result : Coordinator.Result}
    (ticks : fleet.coordinator.Ticks fleet.now result) :
    Common places (fleet.relayDoes result) := by
  obtain ⟨sound, known⟩ := contains_of_ticks common.sound ticks
  exact common.relayDoes ticks.running ticks.config sound known

/-- After a worker has done something, the others are as they were. -/
theorem mem_seats_of_seatDoes
    {early late : List Seat}
    {seat : Seat}
    (sits : fleet.seats = early ++ seat :: late)
    {here : Endpoint}
    {step : Node × List Worker.Action}
    {other : Seat}
    (among : other ∈ (fleet.seatDoes early late here step).seats) :
    other ∈ fleet.seats ∨ other = ⟨here, step.1⟩ := by
  have among : other ∈ early ++ ⟨here, step.1⟩ :: late := among
  simp only [List.mem_append, List.mem_cons] at among
  simp only [sits, List.mem_append, List.mem_cons]
  tauto

/-- What stays on its way was on its way. -/
theorem mem_flying_of_rest
    {before after : List Parcel}
    {parcel other : Parcel}
    (flies : fleet.flying = before ++ parcel :: after)
    (rest : other ∈ before ++ after) :
    other ∈ fleet.flying := by
  simp only [List.mem_append] at rest
  simp only [flies, List.mem_append, List.mem_cons]
  tauto

/-- A worker that is not stopped stays at its place. -/
theorem Common.seatDoes
    (common : Common places fleet)
    {early late : List Seat}
    {seat : Seat}
    (sits : fleet.seats = early ++ seat :: late)
    (input : Node.Input)
    (goes : input.isStop = false) :
    Common places (fleet.seatDoes early late seat.here (seat.node.act input)) := by
  obtain ⟨id, relay⟩ := Node.act_identity seat.node input
  have member : seat ∈ fleet.seats := by simp [sits]
  have works := common.works seat member
  have placed := common.placed
  refine { common with placed := ?_, works := fun other among => ?_ }
  · rw [← placed]
    simp [roster, Fleet.seatDoes, sits, id]
  · rcases mem_seats_of_seatDoes sits among with old | rfl
    · exact common.works other old
    · exact {
        home := relay.trans works.home
        goes := by rw [Node.stopped_act, works.goes, goes]; rfl
        begun := by rw [Node.started_act, works.begun]; rfl
        room := by rw [Node.act_config]; exact works.room }

/-- Each worker has its place. -/
theorem Common.place
    (common : Common places fleet)
    {seat : Seat}
    (member : seat ∈ fleet.seats) :
    (seat.here, seat.node.id) ∈ places :=
  common.placed ▸ List.mem_map.mpr ⟨seat, member, rfl⟩

/-- Two workers that share an endpoint share their id. -/
theorem Common.id_eq
    (common : Common places fleet)
    {here : Endpoint}
    {id id' : String}
    (place : (here, id) ∈ places)
    (place' : (here, id') ∈ places) :
    id = id' := by
  have same := List.inj_on_of_nodup_map common.heres place place' rfl
  exact (Prod.mk.inj same).2

/-! ## Tokens -/

/-- What may be on its way after the relay has taken the broadcast. -/
inductive Fair
    (kind : Kind)
    (own desk : Endpoint)
    (places : List (Endpoint × String)) : Parcel -> Prop
  /-- A heartbeat. -/
  | heartbeat {here : Endpoint} {id : String} {room : Int}
      (place : (here, id) ∈ places) (roomy : 64 ≤ room) :
      Fair kind own desk places ⟨here, own, .heartbeat id, room⟩
  /-- The broadcast, on its way to a worker. -/
  | request {here : Endpoint} {id : String} {room : Int}
      (place : (here, id) ∈ places) (roomy : 64 ≤ room) :
      Fair kind own desk places ⟨own, here, .request kind, room⟩
  /-- A reply, on its way to the relay. -/
  | reply {here : Endpoint} {id payload : String} {room : Int}
      (place : (here, id) ∈ places) (roomy : 64 ≤ room) (lasting : Lasting kind payload) :
      Fair kind own desk places ⟨here, own, .reply kind id payload, room⟩
  /-- A reply, on its way to the controller. -/
  | forwarded {here : Endpoint} {id payload : String} {room : Int}
      (place : (here, id) ∈ places) (roomy : 64 ≤ room) (lasting : Lasting kind payload) :
      Fair kind own desk places ⟨own, desk, .reply kind id payload, room⟩

/-- The device whose answer a parcel asks for or brings. -/
def token (places : List (Endpoint × String)) (parcel : Parcel) : List String :=
  match parcel.message with
  | .request _ => (places.lookup parcel.target).toList
  | .reply _ id _ => [id]
  | _ => []

/-- The device whose answer a parcel brings on from the relay. -/
def onward (own : Endpoint) (parcel : Parcel) : List String :=
  match parcel.message with
  | .reply _ id _ => if parcel.source = own then [id] else []
  | _ => []

/-- The device whose answer is shown. -/
def device (shown : Display) : List String :=
  ((answer? shown).map (·.2)).toList

/-- The device of each job. -/
def working (seat : Seat) : List String :=
  List.replicate seat.node.pending.length seat.node.id

/-- The device of each answer, as far as it has come. -/
def tokens (places : List (Endpoint × String)) (fleet : Fleet) : List String :=
  fleet.flying.flatMap (token places) ++ fleet.seats.flatMap working ++
    fleet.shown.flatMap device

/-- The device of each answer that the relay has taken. -/
def taken (fleet : Fleet) : List String :=
  fleet.flying.flatMap (onward fleet.own) ++ fleet.shown.flatMap device

/-- An answer that the relay has taken is one of the answers. -/
theorem count_onward_le
    (places : List (Endpoint × String))
    (own : Endpoint)
    (id : String)
    (parcels : List Parcel) :
    (parcels.flatMap (onward own)).count id ≤ (parcels.flatMap (token places)).count id := by
  induction parcels with
  | nil => exact Nat.le_refl _
  | cons parcel parcels ih =>
      have one : (onward own parcel).count id ≤ (token places parcel).count id := by
        obtain ⟨source, target, message, room⟩ := parcel
        cases message with
        | reply kind other payload =>
            simp only [onward, token]
            split
            · exact Nat.le_refl _
            · exact Nat.zero_le _
        | _ => exact Nat.zero_le _
      simp only [List.flatMap_cons, List.count_append]
      omega

/-- Who is at a place. -/
theorem lookup_of_mem
    {places : List (Endpoint × String)}
    (heres : (places.map (·.1)).Nodup)
    {here : Endpoint}
    {id : String}
    (place : (here, id) ∈ places) :
    places.lookup here = some id := by
  induction places with
  | nil => simp at place
  | cons first places ih =>
      obtain ⟨fresh, heres⟩ := List.nodup_cons.mp heres
      rcases List.mem_cons.mp place with rfl | later
      · simp
      · have differs : (here == first.1) = false := by
          refine beq_eq_false_iff_ne.mpr fun same => fresh ?_
          exact List.mem_map.mpr ⟨(here, id), later, same⟩
        rw [List.lookup_cons, differs]
        exact ih heres later

/-! ## While answers come in -/

/-- A fleet after the relay has taken the broadcast. -/
structure Collecting
    (kind : Kind)
    (places : List (Endpoint × String))
    (timeout : Int)
    (opened : Session)
    (fleet : Fleet) : Prop where
  common : Common places fleet
  opens : Opened fleet.desk kind (places.map (·.2)) timeout opened
  opening : openings fleet.log = [(opened.startedAt, opened)]
  asked : fleet.coordinator.relay.tally.lastRequester = some fleet.desk
  progress : Progress opened (places.map (·.2)).length fleet.now fleet.replies
    (closings fleet.log) fleet.coordinator.relay.tally
  fair : ∀ parcel ∈ fleet.flying, Fair kind fleet.own fleet.desk places parcel
  jobs : ∀ seat ∈ fleet.seats, ∀ job ∈ seat.node.pending,
    job.job.kind = kind ∧ job.replyTo = fleet.own
  kept : (fleet.tokens places).Perm (places.map (·.2))
  heard : (devices fleet.replies).Perm fleet.taken
  answers : ∀ shown ∈ fleet.shown, ∃ id, answer? shown = some (kind, id)
  count : fleet.controller.replies = fleet.shown.length

variable {kind : Kind} {timeout : Int} {opened : Session}

/-- Events of one time join a log. -/
theorem lists_append (log : List (Int × Relay.Event)) (now : Int) (events : List Relay.Event) :
    openings (log ++ events.map (now, ·)) =
      openings log ++ (events.filterMap (·.opened?)).map (now, ·) ∧
    closings (log ++ events.map (now, ·)) =
      closings log ++ events.filter (·.closed?.isSome) := by
  constructor
  · simp only [openings, List.filterMap_append, List.filterMap_map, List.map_filterMap]
    rfl
  · simp only [closings, List.map_append, List.map_map, List.filter_append]
    congr 2
    exact List.map_id _

/-- No device has two tokens. -/
theorem Collecting.count_le
    (collecting : Collecting kind places timeout opened fleet)
    (id : String) :
    (fleet.tokens places).count id ≤ 1 := by
  rw [collecting.kept.count_eq]
  exact List.nodup_iff_count_le_one.mp collecting.common.ids id

/-- So that a worker runs one job at most. -/
theorem Collecting.pending_le
    (collecting : Collecting kind places timeout opened fleet)
    {early late : List Seat}
    {seat : Seat}
    (sits : fleet.seats = early ++ seat :: late) :
    seat.node.pending.length ≤ 1 := by
  have once := collecting.count_le seat.node.id
  have own : (working seat).count seat.node.id = seat.node.pending.length :=
    List.count_replicate_self
  simp only [tokens, sits, List.flatMap_append, List.flatMap_cons, List.count_append] at once
  omega

/-- The relay ticks. -/
theorem Collecting.ticks
    (collecting : Collecting kind places timeout opened fleet)
    {result : Coordinator.Result}
    (ticks : fleet.coordinator.Ticks fleet.now result) :
    Collecting kind places timeout opened (fleet.relayDoes result) := by
  obtain ⟨opens, closes⟩ := lists_append fleet.log fleet.now result.events
  have flying : (fleet.relayDoes result).flying = fleet.flying := by
    simp [Fleet.relayDoes, ticks.silent]
  refine { collecting with
    common := collecting.common.ticks ticks
    opening := ?_
    asked := ?_
    progress := ?_
    fair := by rw [flying]; exact collecting.fair
    kept := ?_
    heard := ?_ }
  · rw [ticks.opens, List.map_nil, List.append_nil, collecting.opening] at opens
    exact opens
  · show result.coordinator.relay.tally.lastRequester = _
    rw [ticks.tally, Tally.expire_eq]
    exact collecting.asked
  · show Progress _ _ _ _ (closings (fleet.log ++ result.events.map (fleet.now, ·)))
      result.coordinator.relay.tally
    rw [closes, ticks.closes, ticks.tally]
    exact collecting.progress.expire
  · rw [tokens, flying]
    exact collecting.kept
  · rw [taken, flying]
    exact collecting.heard

/-- What a worker sends, as parcels. -/
def parcels (here : Endpoint) (step : Node × List Worker.Action) : List Parcel :=
  (Node.sentOf step.2).map fun sent => ⟨here, sent.1, sent.2, step.1.config.maxMessageBytes⟩

theorem Common.without (common : Common places fleet) (rest : List Parcel) :
    Common places (fleet.without rest) :=
  { common with }

/-- What comes from a worker has not passed the relay. -/
theorem onward_of_source
    {own : Endpoint}
    {parcel : Parcel}
    (foreign : parcel.source ≠ own) :
    onward own parcel = [] := by
  unfold onward
  split
  · rw [if_neg foreign]
  · rfl

/-- A worker takes a token off its way, or puts one on its way, and keeps the balance. -/
theorem Collecting.seatDoes
    (collecting : Collecting kind places timeout opened fleet)
    {early late : List Seat}
    {seat : Seat}
    (sits : fleet.seats = early ++ seat :: late)
    {lost rest : List Parcel}
    (flies : fleet.flying.Perm (lost ++ rest))
    (input : Node.Input)
    (goes : input.isStop = false)
    (balance : ∀ id, (lost.flatMap (token places)).count id + (working seat).count id =
      ((parcels seat.here (seat.node.act input)).flatMap (token places)).count id +
        (working ⟨seat.here, (seat.node.act input).1⟩).count id)
    (passed : lost.flatMap (onward fleet.own) = [])
    (fair : ∀ parcel ∈ parcels seat.here (seat.node.act input),
      Fair kind fleet.own fleet.desk places parcel)
    (jobs : ∀ job ∈ (seat.node.act input).1.pending,
      job.job.kind = kind ∧ job.replyTo = fleet.own) :
    Collecting kind places timeout opened
      ((fleet.without rest).seatDoes early late seat.here (seat.node.act input)) := by
  have member : seat ∈ fleet.seats := by simp [sits]
  have away := collecting.common.apart _ (collecting.common.place member)
  have sent : (parcels seat.here (seat.node.act input)).flatMap (onward fleet.own) = [] := by
    refine List.flatMap_eq_nil_iff.mpr fun parcel among => ?_
    obtain ⟨entry, _, rfl⟩ := List.mem_map.mp among
    exact onward_of_source away.1
  have flying : ((fleet.without rest).seatDoes early late seat.here
      (seat.node.act input)).flying = rest ++ parcels seat.here (seat.node.act input) := rfl
  refine { collecting with
    common := (collecting.common.without rest).seatDoes sits input goes
    fair := fun parcel among => ?_
    jobs := fun other among => ?_
    kept := ?_
    heard := ?_ }
  · rw [flying] at among
    rcases List.mem_append.mp among with old | new
    · exact collecting.fair parcel (flies.mem_iff.mpr (List.mem_append_right lost old))
    · exact fair parcel new
  · rcases mem_seats_of_seatDoes (show (fleet.without rest).seats = _ from sits) among with
      old | rfl
    · exact collecting.jobs other old
    · exact jobs
  · refine List.perm_iff_count.mpr fun id => ?_
    have before := List.perm_iff_count.mp collecting.kept id
    have parts := List.perm_iff_count.mp (flies.flatMap_right (token places)) id
    have even := balance id
    rw [tokens, flying]
    simp only [tokens, sits, Fleet.seatDoes, Fleet.without, List.flatMap_append, List.flatMap_cons,
      List.count_append] at before parts ⊢
    omega
  · refine collecting.heard.trans ?_
    have parts := flies.flatMap_right (onward fleet.own)
    rw [List.flatMap_append, passed, List.nil_append] at parts
    have after : ((fleet.without rest).seatDoes early late seat.here
        (seat.node.act input)).taken = rest.flatMap (onward fleet.own) ++
          (parcels seat.here (seat.node.act input)).flatMap (onward fleet.own) ++
          fleet.shown.flatMap device := by
      rw [taken, flying, List.flatMap_append]
      rfl
    rw [after, sent, List.append_nil]
    exact parts.append_right _

/-- Heartbeats are nobody's answer. -/
theorem parcels_of_onlyBeats
    (common : Common places fleet)
    {seat : Seat}
    (member : seat ∈ fleet.seats)
    {input : Node.Input}
    (beats : Node.OnlyBeats seat.node (seat.node.act input).2)
    (kind : Kind) :
    (parcels seat.here (seat.node.act input)).flatMap (token places) = [] ∧
    ∀ parcel ∈ parcels seat.here (seat.node.act input),
      Fair kind fleet.own fleet.desk places parcel := by
  have works := common.works seat member
  have all : ∀ parcel ∈ parcels seat.here (seat.node.act input),
      parcel = ⟨seat.here, fleet.own, .heartbeat seat.node.id,
        seat.node.config.maxMessageBytes⟩ := by
    intro parcel among
    obtain ⟨sent, spoken, rfl⟩ := List.mem_map.mp among
    rw [beats sent spoken, works.home, Node.act_config]
  constructor
  · exact List.flatMap_eq_nil_iff.mpr fun parcel among => by rw [all parcel among]; rfl
  · intro parcel among
    rw [all parcel among]
    exact .heartbeat (common.place member) works.room

/-- A call or a timer keeps a worker collecting for the relay. -/
theorem Collecting.beats
    (collecting : Collecting kind places timeout opened fleet)
    {early late : List Seat}
    {seat : Seat}
    (sits : fleet.seats = early ++ seat :: late)
    {input : Node.Input}
    (goes : input.isStop = false)
    (same : (seat.node.act input).1.pending = seat.node.pending)
    (beats : Node.OnlyBeats seat.node (seat.node.act input).2) :
    Collecting kind places timeout opened
      (fleet.seatDoes early late seat.here (seat.node.act input)) := by
  have member : seat ∈ fleet.seats := by simp [sits]
  obtain ⟨none, fair⟩ := parcels_of_onlyBeats collecting.common member beats kind
  obtain ⟨id, _⟩ := Node.act_identity seat.node input
  refine collecting.seatDoes sits (show fleet.flying.Perm ([] ++ fleet.flying) from .refl _) input
    goes (fun other => ?_) rfl fair (by rw [same]; exact collecting.jobs seat member)
  rw [none, working, working, same, id]
  rfl

/-- A job that has finished becomes a reply. -/
theorem Collecting.finish
    (collecting : Collecting kind places timeout opened fleet)
    {early late : List Seat}
    {seat : Seat}
    (sits : fleet.seats = early ++ seat :: late)
    {input : Node.Input}
    (goes : input.isStop = false)
    {number : Nat}
    {job : Pending}
    {payload : String}
    (found : seat.node.pending.find? (·.number == number) = some job)
    (left : (seat.node.act input).1.pending = seat.node.pending.filter (·.number != number))
    (sent : Node.sentOf (seat.node.act input).2 =
      [(job.replyTo, .reply job.job.kind seat.node.id payload)]) :
    Collecting kind places timeout opened
      (fleet.seatDoes early late seat.here (seat.node.act input)) := by
  have member : seat ∈ fleet.seats := by simp [sits]
  have works := collecting.common.works seat member
  have mine : job ∈ seat.node.pending := List.mem_of_find?_eq_some found
  have number' : job.number = number := by simpa using List.find?_some found
  obtain ⟨kind', replyTo⟩ := collecting.jobs seat member job mine
  -- It was the only job.
  have only : seat.node.pending = [job] := by
    have few := collecting.pending_le sits
    cases shape : seat.node.pending with
    | nil => simp [shape] at mine
    | cons first rest =>
        rw [shape] at few mine
        have none : rest = [] := List.eq_nil_of_length_eq_zero (by simpa using few)
        subst none
        rw [List.mem_singleton.mp mine]
  have gone : (seat.node.act input).1.pending = [] := by simp [left, only, number']
  have reply : parcels seat.here (seat.node.act input) =
      [⟨seat.here, fleet.own, .reply kind seat.node.id payload,
        seat.node.config.maxMessageBytes⟩] := by
    rw [parcels, sent, replyTo, kind', Node.act_config]
    rfl
  have lasting : Lasting kind payload := by
    rintro rfl
    cases shape : job.job <;> simp [shape, Job.kind] at kind'
  refine collecting.seatDoes sits (show fleet.flying.Perm ([] ++ fleet.flying) from .refl _) input
    goes (fun other => ?_) rfl ?_ (by simp [gone])
  · rw [reply, working, working, only, gone]
    simp [token]
  · rw [reply]
    intro parcel among
    rw [List.mem_singleton.mp among]
    exact .reply (collecting.common.place member) works.room lasting

/-- A broadcast that reaches a worker becomes a reply or a job. -/
theorem Collecting.request
    (collecting : Collecting kind places timeout opened fleet)
    {early late : List Seat}
    {seat : Seat}
    (sits : fleet.seats = early ++ seat :: late)
    {before after : List Parcel}
    {parcel : Parcel}
    (flies : fleet.flying = before ++ parcel :: after)
    (target : parcel.target = seat.here) :
    Collecting kind places timeout opened
      ((fleet.without (before ++ after)).seatDoes early late seat.here
        (seat.node.act (.receive parcel.bytes parcel.source fleet.now none))) := by
  have member : seat ∈ fleet.seats := by simp [sits]
  have place := collecting.common.place member
  have works := collecting.common.works seat member
  have away := collecting.common.apart _ place
  have perm : fleet.flying.Perm ([parcel] ++ (before ++ after)) :=
    flies ▸ List.perm_middle
  cases collecting.fair parcel (by simp [flies]) with
  | heartbeat => exact absurd target.symm away.1
  | reply => exact absurd target.symm away.1
  | forwarded => exact absurd target.symm away.2
  | request place' roomy =>
      rename_i here id room
      obtain rfl : here = seat.here := target
      obtain rfl : id = seat.node.id := collecting.common.id_eq place' place
      have lost : token places ⟨fleet.own, seat.here, .request kind, room⟩ = [seat.node.id] := by
        simp [token, lookup_of_mem collecting.common.heres place]
      have asks := receive_encode_of_request roomy works.room kind
      have acts := Node.act_request works.goes asks fleet.own fleet.now
      have goes : (Node.Input.receive (encode (.request kind) room) fleet.own fleet.now
        none).isStop = false := rfl
      show Collecting kind places timeout opened
        ((fleet.without (before ++ after)).seatDoes early late seat.here
          (seat.node.act (.receive (encode (.request kind) room) fleet.own fleet.now none)))
      generalize Node.Input.receive (encode (.request kind) room) fleet.own fleet.now none =
        input at acts goes ⊢
      obtain ⟨same, _⟩ := Node.act_identity seat.node input
      rcases acts with ⟨rfl, pending, sent⟩ | ⟨job, kind', replyTo, pending, sent⟩
      · have reply : parcels seat.here (seat.node.act input) =
            [⟨seat.here, fleet.own, .reply .time seat.node.id
              (Calendar.localTime (some fleet.now)), seat.node.config.maxMessageBytes⟩] := by
          rw [parcels, sent, Node.act_config]
          rfl
        refine collecting.seatDoes sits perm input goes (fun other => ?_) rfl ?_
          (by rw [pending]; exact collecting.jobs seat member)
        · rw [reply, List.flatMap_singleton, lost, working, working, pending, same]
          rfl
        · rw [reply]
          intro parcel among
          rw [List.mem_singleton.mp among]
          exact .reply place works.room (lasting_localTime _)
      · have none : parcels seat.here (seat.node.act input) = [] := by
          rw [parcels, sent]
          rfl
        refine collecting.seatDoes sits perm input goes (fun other => ?_) rfl (by simp [none]) ?_
        · rw [none, List.flatMap_singleton, lost, working, working, pending, same]
          simp [List.replicate_succ', Nat.add_comm]
        · intro other among
          rw [pending] at among
          rcases List.mem_append.mp among with old | new
          · exact collecting.jobs seat member other old
          · rw [List.mem_singleton.mp new]
            exact ⟨kind', replyTo⟩

/-- What the relay reads keeps the parties at their places. -/
theorem Common.receives
    (common : Common places fleet)
    {bytes : Bytes}
    {message : Message}
    (read : receive bytes fleet.coordinator.config.maxMessageBytes = .ok message)
    (sender : Endpoint)
    (rest : List Parcel) :
    Common places (((fleet.without rest).noting bytes).relayDoes
      (fleet.coordinator.receive bytes sender fleet.now)) := by
  obtain ⟨relay, _, _⟩ := Coordinator.receive_of_ok common.running read sender fleet.now
  obtain ⟨running, config, _⟩ :=
    fleet.coordinator.exists_steps_take (.receive bytes sender fleet.now)
  have noted : Common places ((fleet.without rest).noting bytes) := { common with }
  refine noted.relayDoes (running.trans common.running) config ?_ fun id known => ?_
  · rw [relay]
    exact sound_advance common.sound _
  · rw [relay]
    exact contains_advance common.sound _ known

/-- A heartbeat of a worker is a sign of life and no more. -/
theorem Common.hears
    (common : Common places fleet)
    {here : Endpoint}
    {id : String}
    (place : (here, id) ∈ places)
    {room : Int}
    (roomy : 64 ≤ room) :
    receive (encode (.heartbeat id) room) fleet.coordinator.config.maxMessageBytes =
      .ok (.heartbeat id) ∧
    (fleet.coordinator.receive (encode (.heartbeat id) room) here fleet.now).coordinator.relay =
      { fleet.coordinator.relay with
        registry := fleet.coordinator.relay.registry.update id (·.beat fleet.now) } ∧
    (fleet.coordinator.receive (encode (.heartbeat id) room) here fleet.now).out = [] ∧
    (fleet.coordinator.receive (encode (.heartbeat id) room) here fleet.now).events =
      [.heartbeat id] := by
  have read := receive_encode_of_id roomy common.relayRoom (common.valid _ place)
    (.heartbeat id) (by simp)
  have known : fleet.coordinator.relay.registry.contains id = true := common.known _ place
  obtain ⟨relay, out, events⟩ := Coordinator.receive_of_ok common.running read here fleet.now
  have quiet : fleet.coordinator.relay.dispatch (.heartbeat id) here fleet.now =
      { relay := { fleet.coordinator.relay with
          registry := fleet.coordinator.relay.registry.update id (·.beat fleet.now) }
        events := [.heartbeat id] } := by
    simp [dispatch, Relay.heartbeat, Registry.heartbeat, known]
  rw [Relay.advance, quiet] at relay
  rw [quiet] at out events
  exact ⟨read, relay, out, events⟩

/-- What the relay sends, as parcels. -/
def sends (own : Endpoint) (result : Coordinator.Result) : List Parcel :=
  result.out.map fun out =>
    ⟨own, out.target, out.message, result.coordinator.config.maxMessageBytes⟩

/-- The relay takes a token off its way and sends it on, if there is one. -/
theorem Collecting.relayTakes
    (collecting : Collecting kind places timeout opened fleet)
    {before after : List Parcel}
    {parcel : Parcel}
    (flies : fleet.flying = before ++ parcel :: after)
    {result : Coordinator.Result}
    (common : Common places
      (((fleet.without (before ++ after)).noting parcel.bytes).relayDoes result))
    {more : List (Int × Kind × String)}
    (replies : ((fleet.noting parcel.bytes).relayDoes result).replies = fleet.replies ++ more)
    (opens : result.events.filterMap (·.opened?) = [])
    (asked : result.coordinator.relay.tally.lastRequester = some fleet.desk)
    (progress : Progress opened (places.map (·.2)).length fleet.now (fleet.replies ++ more)
      (closings fleet.log ++ result.events.filter (·.closed?.isSome))
      result.coordinator.relay.tally)
    (fair : ∀ sent ∈ sends fleet.own result, Fair kind fleet.own fleet.desk places sent)
    (balance : token places parcel = (sends fleet.own result).flatMap (token places))
    (foreign : parcel.source ≠ fleet.own)
    (passed : devices more = (sends fleet.own result).flatMap (onward fleet.own)) :
    Collecting kind places timeout opened
      (((fleet.without (before ++ after)).noting parcel.bytes).relayDoes result) := by
  obtain ⟨opens', closes'⟩ := lists_append fleet.log fleet.now result.events
  have flying : (((fleet.without (before ++ after)).noting parcel.bytes).relayDoes result).flying =
      (before ++ after) ++ sends fleet.own result := rfl
  refine { collecting with
    common := common
    opening := ?_
    asked := asked
    progress := ?_
    fair := fun other among => ?_
    kept := ?_
    heard := ?_ }
  · rw [opens, List.map_nil, List.append_nil, collecting.opening] at opens'
    exact opens'
  · show Progress _ _ _ ((fleet.noting parcel.bytes).relayDoes result).replies
      (closings (fleet.log ++ result.events.map (fleet.now, ·))) result.coordinator.relay.tally
    rw [replies, closes']
    exact progress
  · rw [flying] at among
    rcases List.mem_append.mp among with old | new
    · exact collecting.fair other (mem_flying_of_rest flies old)
    · exact fair other new
  · refine List.perm_iff_count.mpr fun id => ?_
    have kept := List.perm_iff_count.mp collecting.kept id
    rw [tokens, flies] at kept
    rw [tokens, flying]
    simp only [List.flatMap_append, List.flatMap_cons, List.count_append, balance] at kept ⊢
    simp only [Fleet.relayDoes, Fleet.noting, Fleet.without]
    omega
  · show (devices ((fleet.noting parcel.bytes).relayDoes result).replies).Perm _
    refine List.perm_iff_count.mpr fun id => ?_
    have heard := List.perm_iff_count.mp collecting.heard id
    rw [taken, flies] at heard
    rw [replies, taken, flying]
    have joined : devices (fleet.replies ++ more) = devices fleet.replies ++ devices more :=
      List.map_append
    rw [joined, passed]
    simp only [List.flatMap_append, List.flatMap_cons, List.count_append,
      onward_of_source foreign, List.count_nil] at heard ⊢
    simp only [Fleet.relayDoes, Fleet.noting, Fleet.without]
    omega

/-- The relay takes a heartbeat of a worker. -/
theorem Collecting.takesHeartbeat
    (collecting : Collecting kind places timeout opened fleet)
    {before after : List Parcel}
    {here : Endpoint}
    {id : String}
    {room : Int}
    (place : (here, id) ∈ places)
    (roomy : 64 ≤ room)
    (flies : fleet.flying = before ++ ⟨here, fleet.own, .heartbeat id, room⟩ :: after) :
    Collecting kind places timeout opened
      (((fleet.without (before ++ after)).noting (encode (.heartbeat id) room)).relayDoes
        (fleet.coordinator.receive (encode (.heartbeat id) room) here fleet.now)) := by
  have common := collecting.common
  obtain ⟨read, relay, out, events⟩ := common.hears place roomy
  have tally := congrArg (·.tally) relay
  have received := common.receives read here (before ++ after)
  have replies (result : Coordinator.Result) :
      ((fleet.noting (encode (.heartbeat id) room)).relayDoes result).replies =
        fleet.replies ++ [] := by
    simp [Fleet.replies, Fleet.relayDoes, Fleet.noting, read, Except.toOption, reply?]
  have progress := collecting.progress
  generalize fleet.coordinator.receive (encode (.heartbeat id) room) here fleet.now =
    result at out events tally received ⊢
  refine collecting.relayTakes flies received (replies result) ?_ ?_ ?_ ?_ ?_ ?_ ?_
  · rw [events]
    rfl
  · rw [tally]
    exact collecting.asked
  · rw [events, tally, List.append_nil]
    simpa [Event.closed?] using progress
  · simp [sends, out]
  · simp [sends, out, token]
  · exact (common.apart _ place).1
  · simp [sends, out, devices]

/-- The relay takes the reply of a worker and sends it on. -/
theorem Collecting.takesReply
    (collecting : Collecting kind places timeout opened fleet)
    {before after : List Parcel}
    {here : Endpoint}
    {id payload : String}
    {room : Int}
    (place : (here, id) ∈ places)
    (roomy : 64 ≤ room)
    (lasting : Lasting kind payload)
    (flies : fleet.flying = before ++ ⟨here, fleet.own, .reply kind id payload, room⟩ :: after) :
    Collecting kind places timeout opened
      (((fleet.without (before ++ after)).noting (encode (.reply kind id payload) room)).relayDoes
        (fleet.coordinator.receive (encode (.reply kind id payload) room) here fleet.now)) := by
  have common := collecting.common
  have away := (common.apart _ place).1
  obtain ⟨payload', read, lasting'⟩ :=
    receive_encode_of_lasting roomy common.relayRoom (common.valid _ place) lasting
  obtain ⟨relay, out, events⟩ := Coordinator.receive_of_ok common.running read here fleet.now
  -- The token of this device has not passed the relay.
  have room' (other : String) : (devices fleet.replies ++ [id]).count other ≤
      (places.map (·.2)).count other := by
    have whole := collecting.kept.count_eq other
    have others := count_onward_le places fleet.own other (before ++ after)
    have mine : onward fleet.own ⟨here, fleet.own, .reply kind id payload, room⟩ = [] :=
      onward_of_source away
    rw [← whole, List.count_append, collecting.heard.count_eq, taken, tokens, flies]
    simp only [List.flatMap_append, List.flatMap_cons, List.count_append, mine, List.count_nil,
      token] at others ⊢
    omega
  have target : id ∈ places.map (·.2) := List.mem_map.mpr ⟨_, place, rfl⟩
  have unheard : id ∉ devices fleet.replies := by
    have once := room' id
    have distinct := List.nodup_iff_count_le_one.mp common.ids id
    rw [List.count_append, List.count_singleton_self] at once
    exact List.count_eq_zero.mp (by omega)
  have missing : fleet.replies.length < (places.map (·.2)).length := by
    have fewer := (List.subperm_ext_iff.mpr fun other _ => room' other).length_le
    rw [List.length_append, devices, List.length_map, List.length_singleton] at fewer
    omega
  obtain ⟨forward, asked, progress⟩ :=
    collecting.progress.record collecting.opens collecting.asked target unheard missing
  obtain ⟨sent, opens, closes⟩ := dispatch_reply_of_forwarded forward payload' here
  have tally := (congrArg (·.tally) relay).trans (congrArg (·.tally)
    (dispatch_reply fleet.coordinator.relay kind id payload' here fleet.now).1)
  rw [← events] at opens closes
  rw [sent] at out
  have received := common.receives read here (before ++ after)
  have replies (result : Coordinator.Result) :
      ((fleet.noting (encode (.reply kind id payload) room)).relayDoes result).replies =
        fleet.replies ++ [(fleet.now, kind, id)] := by
    simp [Fleet.replies, Fleet.relayDoes, Fleet.noting, read, Except.toOption, reply?]
  have roomy' : (64 : Int) ≤ (fleet.coordinator.receive
      (encode (.reply kind id payload) room) here fleet.now).coordinator.config.maxMessageBytes :=
    received.relayRoom
  generalize fleet.coordinator.receive (encode (.reply kind id payload) room) here fleet.now =
    result at out opens closes tally received roomy' ⊢
  have onwards : sends fleet.own result = [⟨fleet.own, fleet.desk, .reply kind id payload',
      result.coordinator.config.maxMessageBytes⟩] := by
    rw [sends, out]
    rfl
  refine collecting.relayTakes flies received (replies result) opens ?_ ?_ ?_ ?_ away ?_
  · exact (congrArg (·.lastRequester) tally).trans asked
  · rw [closes, show result.coordinator.relay.tally = _ from tally]
    exact progress
  · rw [onwards]
    intro parcel among
    rw [List.mem_singleton.mp among]
    exact .forwarded place roomy' lasting'
  · rw [onwards]
    rfl
  · rw [onwards]
    simp [devices, onward]

/-- The controller shows a reply. -/
theorem Collecting.toDesk
    (collecting : Collecting kind places timeout opened fleet)
    {before after : List Parcel}
    {parcel : Parcel}
    (flies : fleet.flying = before ++ parcel :: after)
    (target : parcel.target = fleet.desk) :
    Collecting kind places timeout opened ((fleet.without (before ++ after)).deskDoes
      (fleet.controller.receive parcel.bytes parcel.source fleet.now)) := by
  have common := collecting.common
  cases collecting.fair parcel (by simp [flies]) with
  | heartbeat => exact absurd target.symm common.deskApart
  | reply => exact absurd target.symm common.deskApart
  | request place => exact absurd target (common.apart _ place).2
  | forwarded place roomy lasting =>
      rename_i here id payload room
      obtain ⟨payload', read, _⟩ :=
        receive_encode_of_lasting roomy common.deskRoom (common.valid _ place) lasting
      have takes : fleet.controller.receive (encode (.reply kind id payload) room) fleet.own
          fleet.now = ({ fleet.controller with replies := fleet.controller.replies + 1 },
            [.display (.reply fleet.now kind id payload')]) := by
        rw [Controller.receive, read]
        rfl
      show Collecting kind places timeout opened ((fleet.without (before ++ after)).deskDoes
        (fleet.controller.receive (encode (.reply kind id payload) room) fleet.own fleet.now))
      rw [takes]
      have flying : ((fleet.without (before ++ after)).deskDoes
          ({ fleet.controller with replies := fleet.controller.replies + 1 },
            [.display (.reply fleet.now kind id payload')])).flying = before ++ after :=
        List.append_nil _
      refine { collecting with
        common := { common with }
        fair := fun other among => ?_
        kept := ?_
        heard := ?_
        answers := fun shown among => ?_
        count := ?_ }
      · rw [flying] at among
        exact collecting.fair other (mem_flying_of_rest flies among)
      · refine List.perm_iff_count.mpr fun other => ?_
        have kept := List.perm_iff_count.mp collecting.kept other
        rw [tokens, flies] at kept
        rw [tokens, flying]
        simp only [List.flatMap_append, List.flatMap_cons, List.count_append, Fleet.deskDoes,
          Fleet.without, token] at kept ⊢
        simp [display?, device, answer?] at kept ⊢
        omega
      · refine collecting.heard.trans (List.perm_iff_count.mpr fun other => ?_)
        rw [taken, taken, flies, flying]
        simp only [List.flatMap_append, List.flatMap_cons, List.count_append, Fleet.deskDoes,
          Fleet.without, onward]
        simp [display?, device, answer?]
        omega
      · rcases List.mem_append.mp among with old | new
        · exact collecting.answers shown old
        · obtain rfl : shown = .reply fleet.now kind id payload' := List.mem_singleton.mp new
          exact ⟨id, rfl⟩
      · show fleet.controller.replies + 1 = (fleet.shown ++ [_]).length
        rw [collecting.count, List.length_append, List.length_singleton]

/-- Whatever happens, answers keep coming in. -/
theorem Collecting.step
    (collecting : Collecting kind places timeout opened fleet)
    {next : Fleet}
    (step : Step fleet next) :
    Collecting kind places timeout opened next := by
  have common := collecting.common
  cases step with
  | relayTimer held due =>
      exact collecting.ticks (Coordinator.ticks_goOff common.running _ fleet.now)
  | relayTicks => exact collecting.ticks (Coordinator.ticks_tick common.running fleet.now)
  | workerCalled sits called =>
      rename_i early late seat input
      have works := common.works seat (by simp [sits])
      rcases Node.act_called works.goes works.begun called with
        ⟨same, beats⟩ | ⟨number, job, payload, found, left, sent⟩
      · exact collecting.beats sits called.goes same beats
      · exact collecting.finish sits called.goes found left sent
  | workerTimer sits held past =>
      rename_i early late seat due
      obtain ⟨same, beats⟩ := Node.act_fire seat.node fleet.now none
      exact collecting.beats sits rfl same beats
  | toRelay flies target =>
      rename_i before after parcel
      cases collecting.fair parcel (by simp [flies]) with
      | heartbeat place roomy => exact collecting.takesHeartbeat place roomy flies
      | reply place roomy lasting => exact collecting.takesReply place roomy lasting flies
      | request place => exact absurd target (common.apart _ place).1
      | forwarded => exact absurd target common.deskApart
  | toWorker flies sits target => exact collecting.request sits flies target
  | toDesk flies target => exact collecting.toDesk flies target
  | wait order prompt =>
      exact { collecting with
        common := { common with }
        progress := collecting.progress.wait order }

end Fleet
end CameraFleet
