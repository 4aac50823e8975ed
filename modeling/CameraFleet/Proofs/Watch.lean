import CameraFleet.Network
import CameraFleet.Proofs.Relay.Seen
import CameraFleet.Proofs.Worker.Beating
import Mathlib.Logic.Relation

/-!
# A worker that the relay watches

A relay and one of its workers on a network that loses nothing and delivers
before the clock moves. Everything else that goes on is taken as it comes: any
datagrams from other endpoints, ticks, sweeps and broadcasts, and commands of
the worker that run as long as they like. Once the relay has accepted the
worker, it hears of it again before it may take it for silent.
-/

namespace CameraFleet

/-- A relay, a worker, and the datagrams on their way. -/
structure Watch where
  /-- The clock. -/
  now : Int
  /-- Where the relay is. -/
  own : Endpoint
  /-- Where the worker is. -/
  away : Endpoint
  /-- The relay. -/
  coordinator : Relay.Coordinator
  /-- The worker. -/
  node : Worker.Node
  /-- When the timer of the worker was due that went off last. -/
  rang : Option Int := none
  /-- The datagrams on their way. -/
  flying : List Network.Datagram := []

namespace Watch

open Device Relay Wire Worker

/-- The relay does something, and all that it sends gets out. -/
def relayDoes (watch : Watch) (result : Coordinator.Result) : Watch :=
  { watch with
    coordinator := result.coordinator
    flying := watch.flying ++ result.out.map fun out =>
      ⟨watch.own, out.target, result.coordinator.datagram out.message⟩ }

/-- The worker does something, and all that it sends gets out. -/
def workerDoes (watch : Watch) (step : Node × List Worker.Action) : Watch :=
  { watch with
    node := step.1
    flying := watch.flying ++ (Node.sentOf step.2).map fun sent =>
      ⟨watch.away, sent.1, step.1.datagram sent.2⟩ }

/-- A datagram is taken off its way. -/
def without (watch : Watch) (rest : List Network.Datagram) : Watch :=
  { watch with flying := rest }

/--
One thing that happens. Nothing on its way is lost, and time goes on when nothing
is on its way. The timer of the worker goes off before the clock is past it, and
then holds up the clock no longer, whatever the worker makes of it; those of the
relay go off when they like. The worker is not stopped, and nobody says that the
device of its id leaves.
-/
inductive Step (id : String) (watch : Watch) : Watch -> Prop
  /-- The relay starts. -/
  | relayStarts : Step id watch (watch.relayDoes (watch.coordinator.start watch.now))
  /-- A timer of the relay goes off. -/
  | relayTimer {timer : Relay.Timer} (held : timer ∈ watch.coordinator.pending)
      (due : timer.due ≤ watch.now) :
      Step id watch (watch.relayDoes (watch.coordinator.goOff timer watch.now))
  /-- The relay ticks on demand. -/
  | relayTicks : Step id watch (watch.relayDoes (watch.coordinator.tick watch.now))
  /-- The worker is asked for something, or a command of it ends. -/
  | workerCalled {input : Node.Input} (called : Node.Called watch.now input) :
      Step id watch (watch.workerDoes (watch.node.act input))
  /-- The timer of the worker goes off. -/
  | workerTimer {due : Int} (held : watch.node.due? = some due) (late : due ≤ watch.now) :
      Step id watch
        { watch.workerDoes (watch.node.act (.fire watch.now none)) with rang := some due }
  /-- A datagram reaches the relay. -/
  | toRelay {early late : List Network.Datagram} {datagram : Network.Datagram}
      (flies : watch.flying = early ++ datagram :: late) (target : datagram.target = watch.own)
      (stays : receive datagram.bytes watch.coordinator.config.maxMessageBytes ≠
        .ok (.unregister id)) :
      Step id watch ((watch.without (early ++ late)).relayDoes
        (watch.coordinator.receive datagram.bytes datagram.source watch.now))
  /-- A datagram reaches the worker, which listens from its start on. -/
  | toWorker {early late : List Network.Datagram} {datagram : Network.Datagram}
      (flies : watch.flying = early ++ datagram :: late) (target : datagram.target = watch.away)
      (listens : watch.node.started = true) :
      Step id watch ((watch.without (early ++ late)).workerDoes
        (watch.node.act (.receive datagram.bytes datagram.source watch.now none)))
  /-- A datagram reaches somebody else, or a worker that does not listen yet. -/
  | elsewhere {early late : List Network.Datagram} {datagram : Network.Datagram}
      (flies : watch.flying = early ++ datagram :: late)
      (other : datagram.target ≠ watch.own)
      (deaf : datagram.target = watch.away -> watch.node.started = false) :
      Step id watch (watch.without (early ++ late))
  /-- Somebody else sends a datagram. -/
  | outside {datagram : Network.Datagram}
      (foreign : datagram.source ≠ watch.own ∧ datagram.source ≠ watch.away) :
      Step id watch (watch.without (watch.flying ++ [datagram]))
  /-- Time goes on. -/
  | wait {later : Int} (order : watch.now ≤ later) (quiet : watch.flying = [])
      (heeded : ∀ due, watch.node.due? = some due -> watch.rang = some due ∨ later ≤ due) :
      Step id watch { watch with now := later }

/-- What happens, one thing after the other. -/
abbrev Runs (id : String) : Watch -> Watch -> Prop :=
  Relation.ReflTransGen (Step id)

/-- A relay and a worker that have not been started. -/
def new
    (now : Int)
    (own away : Endpoint)
    (config settings : Config)
    (id : String) : Watch :=
  { now, own, away
    coordinator := .new config own
    node := .new id own settings }

/-- The relay's `OK` ends the worker's wait for an answer. -/
inductive Acknowledged (watch : Watch) : Watch -> Prop
  | intro {early late : List Network.Datagram} {datagram : Network.Datagram} {deadline : Int}
      (flies : watch.flying = early ++ datagram :: late)
      (source : datagram.source = watch.own) (target : datagram.target = watch.away)
      (ok : receive datagram.bytes watch.node.config.maxMessageBytes = .ok (.registered "OK"))
      (waits : watch.node.phase = .awaiting deadline) :
      Acknowledged watch ((watch.without (early ++ late)).workerDoes
        (watch.node.act (.receive datagram.bytes datagram.source watch.now none)))

/-! ## What is kept at any time -/

/-- The two ends as they are meant to be, with nothing on its way that belies them. -/
structure Sane (id : String) (config settings : Config) (watch : Watch) : Prop where
  apart : watch.away ≠ watch.own
  sameConfig : watch.coordinator.config = config
  sound : watch.coordinator.relay.registry.Sound
  timeout : watch.coordinator.relay.registry.livenessTimeout = config.timing.livenessTimeout
  sameId : watch.node.id = id
  home : watch.node.relay = watch.own
  sameSettings : watch.node.config = settings
  goes : watch.node.stopped = false
  rang : ∀ due, watch.rang = some due -> due ≤ watch.now
  /-- What comes from the worker is what it may say. -/
  speech : ∀ datagram ∈ watch.flying, datagram.source = watch.away ->
    ∃ message, Node.Speaks id message ∧ datagram.bytes = encode message settings.maxMessageBytes
  /-- An `OK` for the worker means that the relay has just heard of it. -/
  welcome : ∀ datagram ∈ watch.flying, datagram.source = watch.own ->
    datagram.target = watch.away ->
    receive datagram.bytes settings.maxMessageBytes = .ok (.registered "OK") ->
      watch.coordinator.running = true ∧ Seen id watch.now watch.coordinator.relay

/-- What a step of the relay keeps, if the device does not leave. -/
structure Keeps (id : String) (watch : Watch) (result : Coordinator.Result) : Prop where
  config : result.coordinator.config = watch.coordinator.config
  running : watch.coordinator.running = true -> result.coordinator.running = true
  sound : result.coordinator.relay.registry.Sound
  timeout : result.coordinator.relay.registry.livenessTimeout =
    watch.coordinator.relay.registry.livenessTimeout
  seen : ∀ since, Seen id since watch.coordinator.relay -> since ≤ watch.now ->
    watch.now - since ≤ watch.coordinator.relay.registry.livenessTimeout ->
      Seen id since result.coordinator.relay

variable {id : String} {config settings : Config} {watch : Watch}

/-- What reaches the relay keeps a device, unless it is the farewell of the device. -/
theorem Sane.keeps_take
    (sane : Sane id config settings watch)
    (input : Coordinator.Input)
    (time : input.time = watch.now)
    (stays : ∀ bytes sender now, input = .receive bytes sender now ->
      receive bytes watch.coordinator.config.maxMessageBytes ≠ .ok (.unregister id)) :
    Keeps id watch (watch.coordinator.take input) := by
  obtain ⟨running, same, _⟩ := watch.coordinator.exists_steps_take input
  obtain ⟨sound, timeout⟩ := kept_take sane.sound input
  refine ⟨same, fun runs => running.trans runs, sound, timeout, fun since seen past soon => ?_⟩
  exact seen_take seen sane.sound input (time ▸ ⟨past, soon⟩) stays

/-- A timer that goes off keeps a device as well. -/
theorem Sane.keeps_goOff
    (sane : Sane id config settings watch)
    (timer : Relay.Timer) :
    Keeps id watch (watch.coordinator.goOff timer watch.now) := by
  have released : Sane id config settings
      { watch with coordinator := watch.coordinator.release timer.handle } :=
    { sane with }
  have keeps := released.keeps_take (.fire watch.now) rfl (by simp)
  exact { keeps with }

/-- So does a start, which the relay itself does not notice. -/
theorem Sane.keeps_start (sane : Sane id config settings watch) :
    Keeps id watch (watch.coordinator.start watch.now) ∧
    (watch.coordinator.start watch.now).out = [] := by
  unfold Coordinator.start
  split
  · exact ⟨⟨rfl, fun runs => runs, sane.sound, rfl, fun _ seen _ _ => seen⟩, rfl⟩
  · dsimp only
    obtain ⟨relay, running, same, _⟩ := Coordinator.schedule_relay
      { watch.coordinator with running := true, lastSweepAt := watch.now } watch.now
    refine ⟨⟨same, fun _ => running, ?_, ?_, fun since seen _ _ => ?_⟩, rfl⟩
    · rw [relay]
      exact sane.sound
    · rw [relay]
    · rw [relay]
      exact seen

/-- A step of the relay keeps the two ends as they are, if an `OK` that it sends to the worker
means what it should. -/
theorem Sane.relayDoes
    (sane : Sane id config settings watch)
    {result : Coordinator.Result}
    (keeps : Keeps id watch result)
    (welcome : ∀ out ∈ result.out, out.target = watch.away ->
      receive (encode out.message config.maxMessageBytes) settings.maxMessageBytes =
        .ok (.registered "OK") ->
      result.coordinator.running = true ∧ Seen id watch.now result.coordinator.relay) :
    Sane id config settings (watch.relayDoes result) := by
  have still : watch.coordinator.running = true ∧ Seen id watch.now watch.coordinator.relay ->
      result.coordinator.running = true ∧ Seen id watch.now result.coordinator.relay :=
    fun ⟨running, seen⟩ => ⟨keeps.running running,
      keeps.seen watch.now seen (Int.le_refl _) (by rw [sane.timeout]; omega)⟩
  have sends : result.coordinator.config = config := keeps.config.trans sane.sameConfig
  refine { sane with
    sameConfig := sends
    sound := keeps.sound
    timeout := keeps.timeout.trans sane.timeout
    speech := fun datagram member source => ?_
    welcome := fun datagram member source target ok => ?_ }
  · rcases List.mem_append.mp member with old | new
    · exact sane.speech datagram old source
    · obtain ⟨out, _, rfl⟩ := List.mem_map.mp new
      exact absurd source.symm sane.apart
  · rcases List.mem_append.mp member with old | new
    · exact still (sane.welcome datagram old source target ok)
    · obtain ⟨out, sent, rfl⟩ := List.mem_map.mp new
      refine welcome out sent target ?_
      rw [← sends]
      exact ok

/-- A step of the worker that is no stop keeps them. -/
theorem Sane.workerDoes
    (sane : Sane id config settings watch)
    (input : Node.Input)
    (goes : input.isStop = false) :
    Sane id config settings (watch.workerDoes (watch.node.act input)) := by
  obtain ⟨sameId, home⟩ := Node.act_identity watch.node input
  have sameSettings := (Node.act_config watch.node input).trans sane.sameSettings
  refine { sane with
    sameId := sameId.trans sane.sameId
    home := home.trans sane.home
    sameSettings := sameSettings
    goes := by
      show (watch.node.act input).1.stopped = false
      rw [Node.stopped_act, sane.goes, goes]
      rfl
    speech := fun datagram member source => ?_
    welcome := fun datagram member source target ok => ?_ }
  · rcases List.mem_append.mp member with old | new
    · exact sane.speech datagram old source
    · obtain ⟨sent, spoken, rfl⟩ := List.mem_map.mp new
      refine ⟨sent.2, sane.sameId ▸ Node.speaks_act watch.node goes spoken, ?_⟩
      rw [← sameSettings]
      rfl
  · rcases List.mem_append.mp member with old | new
    · exact sane.welcome datagram old source target ok
    · obtain ⟨sent, _, rfl⟩ := List.mem_map.mp new
      exact absurd source sane.apart

/-- Fewer datagrams, or more of others, do no harm. -/
theorem Sane.without
    (sane : Sane id config settings watch)
    {rest : List Network.Datagram}
    (known : ∀ datagram ∈ rest, datagram ∈ watch.flying ∨
      datagram.source ≠ watch.own ∧ datagram.source ≠ watch.away) :
    Sane id config settings (watch.without rest) := by
  refine { sane with
    speech := fun datagram member source => ?_
    welcome := fun datagram member source target ok => ?_ }
  · rcases known datagram member with old | foreign
    · exact sane.speech datagram old source
    · exact absurd source foreign.2
  · rcases known datagram member with old | foreign
    · exact sane.welcome datagram old source target ok
    · exact absurd source foreign.1

/-- A datagram may come off its way. -/
theorem Sane.less
    (sane : Sane id config settings watch)
    {early late : List Network.Datagram}
    {datagram : Network.Datagram}
    (flies : watch.flying = early ++ datagram :: late) :
    Sane id config settings (watch.without (early ++ late)) := by
  refine sane.without fun other member => .inl ?_
  rw [flies]
  rcases List.mem_append.mp member with before | after
  · exact List.mem_append_left _ before
  · exact List.mem_append_right _ (List.mem_cons_of_mem _ after)

/-- A worker with its own settings suits a relay with a configuration. -/
structure Fits (id : String) (config settings : Config) : Prop where
  /-- The id can name a device. -/
  valid : ValidId id
  /-- The buffer of the relay is large enough for the protocol, -/
  relayRoom : (64 : Int) ≤ config.maxMessageBytes
  /-- and so is that of the worker. -/
  workerRoom : (64 : Int) ≤ settings.maxMessageBytes
  /-- There is time between two heartbeats, -/
  pause : 0 < settings.timing.heartbeat
  /-- but no more than the relay allows. -/
  often : settings.timing.heartbeat ≤ config.timing.liveness

/-- What the relay reads of what the worker may say. -/
theorem Fits.heard
    (fits : Fits id config settings)
    {spoken message : Message}
    (speaks : Node.Speaks id spoken)
    (received : receive (encode spoken settings.maxMessageBytes) config.maxMessageBytes =
      .ok message)
    {other : String}
    (announces : message = .register other ∨ message = .heartbeat other) :
    other = id := by
  have tag := tag_of_receive_encode fits.workerRoom fits.relayRoom received
  have exact' := receive_encode_of_id fits.workerRoom fits.relayRoom fits.valid
  cases spoken with
  | register name =>
      obtain rfl : name = id := speaks
      rw [exact' (.register name) (by simp)] at received
      obtain rfl := Except.ok.inj received
      simpa [eq_comm] using announces
  | heartbeat name =>
      obtain rfl : name = id := speaks
      rw [exact' (.heartbeat name) (by simp)] at received
      obtain rfl := Except.ok.inj received
      simpa [eq_comm] using announces
  | reply kind name payload => rcases announces with rfl | rfl <;> simp [Message.tag] at tag
  | _ => exact absurd speaks not_false

/-- The relay tells the worker `OK` only when it has just heard of it. -/
theorem Sane.welcome_receive
    (sane : Sane id config settings watch)
    (fits : Fits id config settings)
    {datagram : Network.Datagram}
    (flies : datagram ∈ watch.flying)
    {out : Outbound}
    (sent : out ∈ (watch.coordinator.receive datagram.bytes datagram.source watch.now).out)
    (target : out.target = watch.away)
    (ok : receive (encode out.message config.maxMessageBytes) settings.maxMessageBytes =
      .ok (.registered "OK")) :
    Seen id watch.now
      (watch.coordinator.receive datagram.bytes datagram.source watch.now).coordinator.relay := by
  obtain ⟨running, message, received⟩ := Coordinator.exists_message_of_out sent
  obtain ⟨after, outs, _⟩ :=
    Coordinator.receive_of_ok running received datagram.source watch.now
  rw [outs] at sent
  rw [after]
  -- What the worker reads as an answer is one.
  have tag := tag_of_receive_encode fits.relayRoom fits.workerRoom ok
  obtain ⟨goal, said⟩ := out
  cases said with
  | registered answer =>
      obtain ⟨same, answers, other, announces, seen⟩ := answer_of_dispatch sane.sound sent
      rw [receive_encode_of_status fits.relayRoom fits.workerRoom answers] at ok
      have accepted : answer = "OK" := by simpa using ok
      -- It goes to who spoke, so that the worker spoke for itself.
      obtain ⟨spoken, speaks, bytes⟩ := sane.speech datagram flies (same.symm.trans target)
      rw [bytes, sane.sameConfig] at received
      exact fits.heard speaks received announces ▸ seen accepted
  | _ => simp [Message.tag] at tag

/-- The two ends stay as they are meant to be. -/
theorem Sane.step
    (sane : Sane id config settings watch)
    (fits : Fits id config settings)
    {next : Watch}
    (step : Step id watch next) :
    Sane id config settings next := by
  cases step with
  | relayStarts =>
      obtain ⟨keeps, silent⟩ := sane.keeps_start
      exact sane.relayDoes keeps (by simp [silent])
  | relayTimer held due =>
      rename_i timer
      have silent : (watch.coordinator.goOff timer watch.now).out = [] :=
        (watch.coordinator.release timer.handle).out_tick watch.now
      exact sane.relayDoes (sane.keeps_goOff timer) (by simp [silent])
  | relayTicks =>
      have keeps : Keeps id watch (watch.coordinator.tick watch.now) :=
        sane.keeps_take (.tick watch.now) rfl (by simp)
      exact sane.relayDoes keeps (by simp [watch.coordinator.out_tick])
  | workerCalled called => exact sane.workerDoes _ called.goes
  | workerTimer held late =>
      have fired := sane.workerDoes (.fire watch.now none) rfl
      refine { fired with rang := fun due same => ?_ }
      obtain rfl := Option.some.inj same
      exact late
  | toRelay flies target stays =>
      rename_i early late datagram
      have less := sane.less flies
      have member : datagram ∈ watch.flying := by simp [flies]
      have keeps := less.keeps_take (.receive datagram.bytes datagram.source watch.now)
        rfl (by rintro _ _ _ ⟨⟩; exact stays)
      refine less.relayDoes keeps fun out sent target ok => ?_
      have seen := sane.welcome_receive fits member sent target ok
      obtain ⟨running, _⟩ := Coordinator.exists_message_of_out sent
      exact ⟨keeps.running running, seen⟩
  | toWorker flies target listens => exact (sane.less flies).workerDoes _ rfl
  | elsewhere flies other deaf => exact sane.less flies
  | outside foreign =>
      refine sane.without fun datagram member => ?_
      rcases List.mem_append.mp member with old | new
      · exact .inl old
      · exact .inr (List.mem_singleton.mp new ▸ foreign)
  | wait order quiet heeded =>
      refine { sane with
        rang := fun due rang => Int.le_trans (sane.rang due rang) order
        welcome := fun datagram member => ?_ }
      have flies : datagram ∈ watch.flying := member
      rw [quiet] at flies
      simp at flies

/-! ## Once the worker has been accepted -/

/-- The heartbeat of the worker, on its way to the relay. -/
def beat (id : String) (settings : Config) (watch : Watch) : Network.Datagram :=
  ⟨watch.away, watch.own, encode (.heartbeat id) settings.maxMessageBytes⟩

/--
The relay has heard of the worker, and will hear of it again before a period has
passed: the next heartbeat is due by then, or one is already on its way.
-/
structure Heard (id : String) (settings : Config) (since next : Int) (watch : Watch) : Prop where
  running : watch.coordinator.running = true
  phase : watch.node.phase = .beating next
  ahead : ∀ due, watch.rang = some due -> due < next
  past : since ≤ watch.now
  seen : Seen id since watch.coordinator.relay
  soon : watch.now ≤ since + Node.period settings
  near : next ≤ watch.now + Node.period settings
  beats : next ≤ since + Node.period settings ∨ watch.beat id settings ∈ watch.flying

variable {since next : Int}

/-- What the relay does keeps it so, if the worker is heard often enough, -/
theorem Heard.relayDoes
    (heard : Heard id settings since next watch)
    (often : Node.period settings ≤ watch.coordinator.relay.registry.livenessTimeout)
    {result : Coordinator.Result}
    (keeps : Keeps id watch result) :
    Heard id settings since next (watch.relayDoes result) := by
  have soon := heard.soon
  refine { heard with
    running := keeps.running heard.running
    seen := keeps.seen since heard.seen heard.past (by omega)
    beats := ?_ }
  rcases heard.beats with early | flies
  · exact .inl early
  · exact .inr (List.mem_append_left _ flies)

/-- and so does what the worker does, if its timer does not move; -/
theorem Heard.workerDoes
    (heard : Heard id settings since next watch)
    {step : Node × List Worker.Action}
    (phase : step.1.phase = .beating next) :
    Heard id settings since next (watch.workerDoes step) := by
  refine { heard with phase := phase, beats := ?_ }
  rcases heard.beats with early | flies
  · exact .inl early
  · exact .inr (List.mem_append_left _ flies)

/-- and so does whatever leaves the heartbeats on their way. -/
theorem Heard.without
    (heard : Heard id settings since next watch)
    {rest : List Network.Datagram}
    (kept : watch.beat id settings ∈ watch.flying -> watch.beat id settings ∈ rest) :
    Heard id settings since next (watch.without rest) := by
  refine { heard with beats := ?_ }
  rcases heard.beats with early | flies
  · exact .inl early
  · exact .inr (kept flies)

/-- Other datagrams than the heartbeat may come off their way. -/
theorem mem_rest_of_ne
    {early late : List Network.Datagram}
    {datagram other : Network.Datagram}
    (flies : watch.flying = early ++ datagram :: late)
    (differs : other ≠ datagram)
    (member : other ∈ watch.flying) :
    other ∈ early ++ late := by
  rw [flies] at member
  simpa [differs] using member

/-- Even the shortest delay of a timer takes time. -/
theorem zero_lt_period (settings : Config) : 0 < Node.period settings := by
  have positive : 0 < Timer.delay settings.timing.heartbeatPeriod := by
    unfold Timer.delay
    split
    · rename_i between
      simp only [Bool.and_eq_true, decide_eq_true_eq] at between
      exact between.1
    · decide
  exact Int.natCast_pos.mpr positive

/-- The relay allows as much silence as there is between two heartbeats. -/
theorem Fits.period_le (fits : Fits id config settings) :
    Node.period settings ≤ config.timing.livenessTimeout := by
  have pause := fits.pause
  have often := fits.often
  have shorter : Timer.delay settings.timing.heartbeatPeriod ≤ config.timing.livenessTimeout := by
    unfold Timer.delay Timer.shortest Timing.heartbeatPeriod Timing.livenessTimeout
      milliseconds
    split <;> omega
  exact Int.ofNat_le.mpr shorter

/-- The timer of the worker sends the heartbeat that is due. -/
theorem Heard.fire
    (sane : Sane id config settings watch)
    (heard : Heard id settings since next watch)
    (late : next ≤ watch.now) :
    Heard id settings since (next + Node.period settings)
      { watch.workerDoes (watch.node.act (.fire watch.now none)) with rang := some next } := by
  obtain ⟨phase, sent⟩ := Node.act_fire_of_beating sane.goes heard.phase watch.now
  have sameSettings := (Node.act_config watch.node (.fire watch.now none)).trans sane.sameSettings
  rw [sane.sameSettings] at phase
  rw [sane.home, sane.sameId] at sent
  refine { heard with
    phase := phase
    ahead := fun due same => ?_
    near := Int.add_le_add_right late _
    beats := .inr ?_ }
  · obtain rfl := Option.some.inj same
    exact Int.lt_add_of_pos_right _ (zero_lt_period settings)
  · refine List.mem_append_right _ (List.mem_map.mpr ⟨_, sent, ?_⟩)
    rw [Node.datagram, sameSettings]
    rfl

/-- A heartbeat that the relay takes starts the period anew. -/
theorem Heard.renew
    (sane : Sane id config settings watch)
    (fits : Fits id config settings)
    (heard : Heard id settings since next watch)
    (rest : List Network.Datagram)
    {result : Coordinator.Result}
    (keeps : Keeps id watch result)
    (received : result =
      watch.coordinator.receive (watch.beat id settings).bytes watch.away watch.now) :
    Heard id settings watch.now next ((watch.without rest).relayDoes result) := by
  have read : receive (watch.beat id settings).bytes watch.coordinator.config.maxMessageBytes =
      .ok (.heartbeat id) := by
    rw [sane.sameConfig]
    exact receive_encode_of_id fits.workerRoom fits.relayRoom fits.valid (.heartbeat id) (by simp)
  have seen := heard.seen.heartbeat watch.away watch.now
  rw [← (Coordinator.receive_of_ok heard.running read watch.away watch.now).1, ← received] at seen
  have positive := zero_lt_period settings
  exact { heard with
    running := keeps.running heard.running
    past := Int.le_refl _
    seen := seen
    soon := Int.le_of_lt (Int.lt_add_of_pos_right _ positive)
    beats := .inl heard.near }

/-- Whatever happens, the relay will hear of the worker in time. -/
theorem Heard.step
    (sane : Sane id config settings watch)
    (fits : Fits id config settings)
    (heard : Heard id settings since next watch)
    {after : Watch}
    (step : Step id watch after) :
    ∃ since next, Heard id settings since next after := by
  have often : Node.period settings ≤ watch.coordinator.relay.registry.livenessTimeout :=
    sane.timeout.symm ▸ fits.period_le
  cases step with
  | relayStarts => exact ⟨since, next, heard.relayDoes often sane.keeps_start.1⟩
  | relayTimer held due => exact ⟨since, next, heard.relayDoes often (sane.keeps_goOff _)⟩
  | relayTicks =>
      have keeps : Keeps id watch (watch.coordinator.tick watch.now) :=
        sane.keeps_take (.tick watch.now) rfl (by simp)
      exact ⟨since, next, heard.relayDoes often keeps⟩
  | workerCalled called =>
      have phase := Node.phase_act_of_beating sane.goes heard.phase _ called.goes
        (fun now link same => by subst same; cases called)
      exact ⟨since, next, heard.workerDoes phase⟩
  | workerTimer held late =>
      rename_i due
      obtain rfl : next = due := by simpa [Node.due?, heard.phase] using held
      exact ⟨since, _, heard.fire sane late⟩
  | toRelay flies target stays =>
      rename_i early late datagram
      have keeps : Keeps id watch
          (watch.coordinator.receive datagram.bytes datagram.source watch.now) :=
        sane.keeps_take (.receive datagram.bytes datagram.source watch.now) rfl
          (by rintro _ _ _ ⟨⟩; exact stays)
      by_cases beats : watch.beat id settings = datagram
      · subst beats
        exact ⟨_, next, heard.renew sane fits (early ++ late) keeps rfl⟩
      · have less := heard.without (mem_rest_of_ne flies beats)
        exact ⟨since, next, less.relayDoes often { keeps with }⟩
  | toWorker flies target listens =>
      have less := heard.without (mem_rest_of_ne flies fun same =>
        sane.apart (target.symm.trans (congrArg (·.target) same).symm))
      rename_i datagram
      have phase := Node.phase_act_of_beating sane.goes heard.phase
        (.receive datagram.bytes datagram.source watch.now none) rfl (by simp)
      exact ⟨since, next, less.workerDoes phase⟩
  | elsewhere flies other deaf =>
      exact ⟨since, next, heard.without (mem_rest_of_ne flies fun same =>
        other (congrArg (·.target) same).symm)⟩
  | outside foreign =>
      exact ⟨since, next, heard.without fun flies => List.mem_append_left _ flies⟩
  | wait order quiet heeded =>
      rename_i later
      have early : next ≤ since + Node.period settings := by
        simpa [quiet] using heard.beats
      have bound : later ≤ next := by
        rcases heeded next (by simp [Node.due?, heard.phase]) with rang | bound
        · exact absurd (heard.ahead next rang) (Int.lt_irrefl next)
        · exact bound
      have near := heard.near
      exact ⟨since, next, { heard with
        past := Int.le_trans heard.past order
        soon := Int.le_trans bound early
        near := by show next ≤ later + _; omega
        beats := .inl early }⟩

/-- The `OK` that ends the wait of the worker is its first sign of life. -/
theorem heard_of_acknowledged
    (sane : Sane id config settings watch)
    {after : Watch}
    (acknowledged : Acknowledged watch after) :
    Sane id config settings after ∧
    Heard id settings watch.now (watch.now + Node.period settings) after := by
  cases acknowledged with
  | intro flies source target ok waits =>
      rename_i early late datagram deadline
      have member : datagram ∈ watch.flying := by simp [flies]
      obtain ⟨running, seen⟩ :=
        sane.welcome datagram member source target (sane.sameSettings ▸ ok)
      have phase := Node.phase_of_ok sane.goes waits ok datagram.source watch.now none
      rw [sane.sameSettings] at phase
      have positive := zero_lt_period settings
      refine ⟨(sane.less flies).workerDoes _ rfl, ?_⟩
      exact {
        running := running
        phase := phase
        ahead := fun due rang => by have := sane.rang due rang; omega
        past := Int.le_refl _
        seen := seen
        soon := Int.le_of_lt (Int.lt_add_of_pos_right _ positive)
        near := Int.le_refl _
        beats := .inl (Int.le_refl _) }

theorem sane_new
    (began : Int)
    {own away : Endpoint}
    (apart : away ≠ own)
    (config settings : Config)
    (id : String) :
    Sane id config settings (new began own away config settings id) where
  apart := apart
  sameConfig := rfl
  sound := Registry.sound_empty _ _
  timeout := rfl
  sameId := rfl
  home := rfl
  sameSettings := rfl
  goes := rfl
  rang := by simp [new]
  speech := by simp [new]
  welcome := by simp [new]

theorem Sane.run
    (sane : Sane id config settings watch)
    (fits : Fits id config settings)
    {later : Watch}
    (runs : Runs id watch later) :
    Sane id config settings later := by
  induction runs with
  | refl => exact sane
  | tail _ step ih => exact ih.step fits step

theorem Heard.run
    (sane : Sane id config settings watch)
    (fits : Fits id config settings)
    (heard : Heard id settings since next watch)
    {later : Watch}
    (runs : Runs id watch later) :
    ∃ since next, Heard id settings since next later := by
  induction runs with
  | refl => exact ⟨since, next, heard⟩
  | tail further step ih =>
      obtain ⟨_, _, heard⟩ := ih
      exact heard.step (sane.run fits further) fits step

/--
A worker that the relay has accepted stays active while it is not stopped and
nobody says that it leaves, whatever else goes on and however long, if its
heartbeats are as frequent as the relay demands. Every broadcast that is not
refused goes to where the worker is recorded, and waits for its reply.
-/
theorem live_worker_stays_active
    {id : String}
    {config settings : Config}
    (fits : Fits id config settings)
    {own away : Endpoint}
    (apart : away ≠ own)
    (began : Int)
    {before after later : Watch}
    (prior : Runs id (new began own away config settings id) before)
    (acknowledged : Acknowledged before after)
    (further : Runs id after later) :
    ∃ record, later.coordinator.relay.registry.get? id = some record ∧ record.active = true ∧
      ∀ bytes sender kind,
        receive bytes config.maxMessageBytes = .ok (.request kind) ->
        ¬ later.coordinator.relay.tally.Busy later.now ->
        ⟨record.address, .request kind⟩ ∈
            (later.coordinator.receive bytes sender later.now).out ∧
          ∃ session,
            (later.coordinator.receive bytes sender later.now).coordinator.relay.tally.current =
              some session ∧
            id ∈ session.targets := by
  obtain ⟨accepted, heard⟩ := heard_of_acknowledged
    ((sane_new began apart config settings id).run fits prior) acknowledged
  obtain ⟨_, _, heard⟩ := heard.run accepted fits further
  have sane := accepted.run fits further
  obtain ⟨record, found, active, late⟩ := heard.seen
  refine ⟨record, found, active, fun bytes sender kind asks free => ?_⟩
  have soon := heard.soon
  have often := fits.period_le
  rw [← sane.sameConfig] at asks
  obtain ⟨taken, out, _⟩ := Coordinator.receive_of_ok heard.running asks sender later.now
  rw [taken, out]
  exact asked_of_active found active (by rw [sane.timeout]; omega) free kind sender

/-! ## A run in which the silence is as long as it may be -/

/-- One second everywhere. -/
def tight : Config :=
  { timing := { heartbeat := 1, liveness := 1, sweep := 1 } }

/-- Where the relay is. -/
def relayHere : Endpoint := ⟨"10.0.0.1", 8080⟩

/-- Where the worker is. -/
def workerHere : Endpoint := ⟨"10.0.0.2", 4000⟩

/-- Relay and worker have been started, and the registration is on its way. -/
def registering : Watch :=
  let begun := new 0 relayHere workerHere tight tight "cam-1"
  let listening := begun.relayDoes (begun.coordinator.start 0)
  listening.workerDoes (listening.node.act (.start 0 none))

/-- The relay has taken the only datagram, which came from the worker. -/
def handedOver (watch : Watch) (text : String) : Watch :=
  (watch.without []).relayDoes
    (watch.coordinator.receive (Utf8.ofString text) workerHere watch.now)

/-- The worker has taken the answer to its registration. -/
def joined : Watch :=
  let answered := registering.handedOver "REGISTER:cam-1\n"
  (answered.without []).workerDoes
    (answered.node.act (.receive (Utf8.ofString "REGISTERED:OK\n") relayHere 0 none))

/-- When its timer is due the relay has swept, and only then the worker has spoken. -/
def beaten (watch : Watch) (timer : Relay.Timer) : Watch :=
  let later := { watch with now := timer.due }
  let swept := later.relayDoes (later.coordinator.goOff timer timer.due)
  { swept.workerDoes (swept.node.act (.fire timer.due none)) with rang := some timer.due }

/-- The first timer of the relay. -/
def firstTimer : Relay.Timer := ⟨0, 1000, idlePeriod⟩

/-- The second timer of the relay. -/
def secondTimer : Relay.Timer := ⟨1, 2000, idlePeriod⟩

/-- One heartbeat has been taken, and the next is on its way. -/
def twice : Watch :=
  ((joined.beaten firstTimer).handedOver "HEARTBEAT:cam-1\n").beaten secondTimer

/-- A datagram is handed over if it is the only one, and no farewell. -/
theorem step_handedOver
    {text : String}
    (flies : watch.flying = [⟨workerHere, relayHere, Utf8.ofString text⟩])
    (own : watch.own = relayHere)
    (stays : (receive (Utf8.ofString text) watch.coordinator.config.maxMessageBytes).toOption ≠
      some (.unregister id)) :
    Step id watch (watch.handedOver text) :=
  @Step.toRelay id watch [] [] ⟨workerHere, relayHere, Utf8.ofString text⟩ flies own.symm
    fun leaves => stays (congrArg (·.toOption) leaves)

/-- A second passes if nothing is on its way and both timers are due after it. -/
theorem runs_beaten
    {timer : Relay.Timer}
    (quiet : watch.flying = [])
    (order : watch.now ≤ timer.due)
    (held : timer ∈ watch.coordinator.pending)
    (due : watch.node.due? = some timer.due) :
    Runs id watch (watch.beaten timer) := by
  have waits : Step id watch { watch with now := timer.due } :=
    .wait order quiet fun other same => .inr (Int.le_of_eq (Option.some.inj (due.symm.trans same)))
  exact ((Relation.ReflTransGen.single waits).tail (.relayTimer held (Int.le_refl _))).tail
    (.workerTimer due (Int.le_refl _))

/-- A worker that is silent for as long as it may be: at 1000 and at 2000 the relay sweeps, a full
second after it heard of the worker, which then is asked like any other. -/
theorem live_worker_stays_active_boundary :
    Fits "cam-1" tight tight ∧ workerHere ≠ relayHere ∧
    Runs "cam-1" (new 0 relayHere workerHere tight tight "cam-1")
      (registering.handedOver "REGISTER:cam-1\n") ∧
    Acknowledged (registering.handedOver "REGISTER:cam-1\n") joined ∧
    Runs "cam-1" joined twice ∧
    twice.now = 2000 ∧ twice.coordinator.lastSweepAt = 2000 ∧
    twice.coordinator.relay.registry.records.map (·.lastHeartbeat) = [1000] ∧
    ∃ record, twice.coordinator.relay.registry.get? "cam-1" = some record ∧
      record.active = true ∧
      receive (Utf8.ofString "TIME_REQUEST\n") tight.maxMessageBytes = .ok (.request .time) ∧
      twice.coordinator.relay.tally.current = none ∧
      ⟨record.address, .request .time⟩ ∈
        (twice.coordinator.receive (Utf8.ofString "TIME_REQUEST\n") default 2000).out := by
  have fits : Fits "cam-1" tight tight :=
    ⟨by decide +kernel, by decide, by decide, by decide, by decide⟩
  have apart : workerHere ≠ relayHere := by decide
  have prior : Runs "cam-1" (new 0 relayHere workerHere tight tight "cam-1")
      (registering.handedOver "REGISTER:cam-1\n") :=
    ((Relation.ReflTransGen.single .relayStarts).tail (.workerCalled .start)).tail
      (step_handedOver (by decide +kernel) rfl (by decide +kernel))
  have acknowledged : Acknowledged (registering.handedOver "REGISTER:cam-1\n") joined :=
    @Acknowledged.intro _ [] [] ⟨relayHere, workerHere, Utf8.ofString "REGISTERED:OK\n"⟩ 5000
      (by decide +kernel) rfl rfl (eq_ok_of_toOption_eq_some (by decide +kernel))
      (by decide +kernel)
  have further : Runs "cam-1" joined twice :=
    ((runs_beaten (by decide +kernel) (by decide +kernel) (by decide +kernel)
      (by decide +kernel)).tail
        (step_handedOver (by decide +kernel) rfl (by decide +kernel))).trans
      (runs_beaten (by decide +kernel) (by decide +kernel) (by decide +kernel)
        (by decide +kernel))
  obtain ⟨record, found, active, asked⟩ :=
    live_worker_stays_active fits apart 0 prior acknowledged further
  have asks : receive (Utf8.ofString "TIME_REQUEST\n") tight.maxMessageBytes =
      .ok (.request .time) := eq_ok_of_toOption_eq_some (by decide +kernel)
  have free : twice.coordinator.relay.tally.current = none := by decide +kernel
  obtain ⟨sent, _⟩ := asked (Utf8.ofString "TIME_REQUEST\n") default .time asks
    (by simp [Tally.Busy, free])
  exact ⟨fits, apart, prior, acknowledged, further, by decide +kernel, by decide +kernel,
    by decide +kernel, record, found, active, asks, free, sent⟩

end Watch
end CameraFleet
