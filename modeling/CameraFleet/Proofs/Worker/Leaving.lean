import CameraFleet.Proofs.Coordinator.Closing
import CameraFleet.Proofs.Relay.History
import CameraFleet.Proofs.Wire.Hops
import CameraFleet.Proofs.Worker.Jobs
import CameraFleet.Proofs.Worker.Registering

/-!
# Leaving

A worker that has been stopped sends its farewell at most, and no timer of it
runs. A relay that gets everything the worker sent, in order, holds it inactive
from the farewell on.
-/

namespace CameraFleet
namespace Worker
namespace Node

open Wire

/-- What an action sends. -/
def sent? : Action -> Option (Endpoint × Message)
  | .send target message => some (target, message)
  | _ => none

/-- What actions send, in order. -/
def sentOf (actions : List Action) : List (Endpoint × Message) :=
  actions.filterMap sent?

/-- What a run sends, in order. -/
def sent (node : Node) : List Input -> List (Endpoint × Message)
  | [] => []
  | input :: inputs => sentOf (node.act input).2 ++ (node.act input).1.sent inputs

/-- Messages are sent one step after the other. -/
theorem sentOf_append (before after : List Action) :
    sentOf (before ++ after) = sentOf before ++ sentOf after :=
  List.filterMap_append

theorem sent_append (node : Node) (before after : List Input) :
    node.sent (before ++ after) = node.sent before ++ (node.run before).sent after := by
  induction before generalizing node with
  | nil => rfl
  | cons input inputs ih => simp [sent, ih]

/-- A worker that has been stopped, and of which no timer runs. -/
structure Silent (node : Node) : Prop where
  stopped : node.stopped = true
  idle : node.due? = none

/-- A command sends nothing by itself. -/
theorem sentOf_conclude (node : Node) (pending : Pending) (result : Except String RunResult) :
    sentOf (node.conclude pending result).2 = [] := by
  cases result with
  | error reason => rfl
  | ok result =>
      simp only [conclude, runWarning]
      split <;> rfl

/-- Nothing gets out of a silent worker, and it stays silent. -/
theorem Silent.act
    {node : Node}
    (silent : node.Silent)
    (input : Input) :
    (node.act input).1.Silent ∧ sentOf (node.act input).2 = [] := by
  obtain ⟨stopped, idle⟩ := silent
  cases input with
  | start now link =>
      simp only [Node.act, linkOf, stopped, if_true, start]
      split
      · exact ⟨⟨stopped, idle⟩, rfl⟩
      · exact ⟨⟨rfl, rfl⟩, rfl⟩
  | stop now link =>
      simp only [Node.act, stop, stopped, if_true]
      exact ⟨⟨stopped, idle⟩, rfl⟩
  | receive bytes sender now link =>
      simp only [Node.act, receive, stopped, if_true]
      exact ⟨⟨stopped, idle⟩, rfl⟩
  | fire now link =>
      simp only [Node.act, fire]
      cases phase : node.phase with
      | awaiting deadline => simp [due?, phase] at idle
      | beating next => simp [due?, phase] at idle
      | fresh => exact ⟨⟨stopped, idle⟩, rfl⟩
      | quiet => exact ⟨⟨stopped, idle⟩, rfl⟩
  | heartbeat now link =>
      simp only [Node.act, heartbeat, beat, stopped, if_true]
      exact ⟨⟨stopped, idle⟩, rfl⟩
  | whenIdle =>
      simp only [Node.act, whenIdle]
      split <;> exact ⟨⟨stopped, idle⟩, rfl⟩
  | finish number result link =>
      simp only [Node.act, Node.finish, stopped, if_true]
      split
      · exact ⟨⟨stopped, idle⟩, rfl⟩
      · rename_i pending _
        have told := sentOf_conclude node pending result
        split
        · refine ⟨⟨rfl, idle⟩, ?_⟩
          have waits : sentOf (List.replicate node.idleWaiters .idle) = [] := by
            simp [sentOf, sent?]
          rw [sentOf_append, sentOf_append, told, waits]
          rfl
        · refine ⟨⟨rfl, idle⟩, ?_⟩
          rw [sentOf_append, told]
          rfl

/-- A worker that is silent stays so, and sends nothing. -/
theorem Silent.run
    {node : Node}
    (silent : node.Silent)
    (inputs : List Input) :
    (node.run inputs).Silent ∧ node.sent inputs = [] := by
  induction inputs generalizing node with
  | nil => exact ⟨silent, rfl⟩
  | cons input inputs ih =>
      obtain ⟨next, nothing⟩ := silent.act input
      obtain ⟨last, later⟩ := ih next
      exact ⟨last, by rw [sent, nothing, later]; rfl⟩

/-- A stop sends the farewell, if the worker was started and the farewell gets out. -/
theorem silent_stop
    {node : Node}
    (running : node.stopped = false)
    (now : Int)
    (link : Link) :
    (node.stop now link).1.Silent ∧
    sentOf (node.stop now link).2 =
      if node.started = true ∧ link = none then [(node.relay, .unregister node.id)] else [] := by
  simp only [stop, running, Bool.false_eq_true, if_false]
  cases phase : node.phase with
  | fresh =>
      cases link <;> simp [started, phase, sentOf, sent?] <;> exact ⟨rfl, by simp [due?]⟩
  | quiet =>
      cases link <;> simp [started, phase, sentOf, sent?, transmit] <;>
        exact ⟨rfl, by simp [due?]⟩
  | beating next =>
      cases link <;> simp [started, phase, sentOf, sent?, transmit] <;>
        exact ⟨rfl, by simp [due?]⟩
  | awaiting deadline =>
      cases link <;>
        simp [started, phase, sentOf, sent?, transmit, settle, beginBeating, noteStatus] <;>
        exact ⟨rfl, by simp [due?]⟩

/-- No timer of a worker that has been stopped runs. -/
theorem silent_of_stopped
    {node : Node}
    (quiet : node.stopped = true -> node.Silent)
    (inputs : List Input)
    (stopped : (node.run inputs).stopped = true) :
    (node.run inputs).Silent := by
  induction inputs generalizing node with
  | nil => exact quiet stopped
  | cons input inputs ih =>
      refine ih (fun next => ?_) stopped
      cases before : node.stopped with
      | true => exact ((quiet before).act input).1
      | false =>
          rw [stopped_act, before, Bool.false_or] at next
          cases input with
          | stop now link => exact (silent_stop before now _).1
          | _ => simp [Input.isStop] at next

/-- No answer changes who the worker is, or which relay it has. -/
theorem settle_identity (node : Node) (status : Option String) (now : Int) :
    (node.settle status now).1.id = node.id ∧
    (node.settle status now).1.relay = node.relay := by
  simp only [settle, beginBeating, noteStatus]
  split <;> split <;> exact ⟨rfl, rfl⟩

/-- A worker keeps its id and its relay. -/
theorem act_identity (node : Node) (input : Input) :
    (node.act input).1.id = node.id ∧ (node.act input).1.relay = node.relay := by
  cases input with
  | start now link =>
      simp only [act, start]
      split
      · exact ⟨rfl, rfl⟩
      · split <;> exact ⟨rfl, rfl⟩
  | stop now link =>
      simp only [act, stop]
      split
      · exact ⟨rfl, rfl⟩
      · cases node.phase with
        | awaiting deadline =>
            exact settle_identity
              { node with phase := .awaiting deadline, stopped := true } none now
        | _ => exact ⟨rfl, rfl⟩
  | receive bytes sender now link =>
      simp only [act, receive]
      split
      · exact ⟨rfl, rfl⟩
      · split
        · exact ⟨rfl, rfl⟩
        · unfold take
          split
          · unfold takeStatus
            split
            · exact settle_identity _ _ _
            · split
              · split <;> exact ⟨rfl, rfl⟩
              · exact ⟨rfl, rfl⟩
          · split <;> exact ⟨rfl, rfl⟩
          · exact ⟨rfl, rfl⟩
          · exact ⟨rfl, rfl⟩
  | fire now link =>
      simp only [act, fire]
      split
      · exact settle_identity _ _ _
      · simp only [beat]
        split <;> exact ⟨rfl, rfl⟩
      · exact ⟨rfl, rfl⟩
      · exact ⟨rfl, rfl⟩
  | heartbeat now link =>
      simp only [act, heartbeat, beat]
      split <;> exact ⟨rfl, rfl⟩
  | whenIdle =>
      simp only [act, whenIdle]
      split <;> exact ⟨rfl, rfl⟩
  | finish number result link =>
      simp only [act, Node.finish]
      split
      · exact ⟨rfl, rfl⟩
      · split <;> exact ⟨rfl, rfl⟩

theorem run_identity (node : Node) (inputs : List Input) :
    (node.run inputs).id = node.id ∧ (node.run inputs).relay = node.relay := by
  induction inputs generalizing node with
  | nil => exact ⟨rfl, rfl⟩
  | cons input inputs ih =>
      obtain ⟨id, relay⟩ := act_identity node input
      obtain ⟨id', relay'⟩ := ih (node.act input).1
      exact ⟨id'.trans id, relay'.trans relay⟩

theorem started_settle (node : Node) (status : Option String) (now : Int) :
    (node.settle status now).1.started = true := by
  simp only [settle, beginBeating]
  split <;> rfl

theorem started_take
    (node : Node)
    (message : Message)
    (sender : Endpoint)
    (now : Int)
    (link : Link) :
    (node.take message sender now link).1.started = node.started := by
  unfold take
  split
  · unfold takeStatus
    split
    · rename_i phase
      rw [started_settle]
      simp [started, phase]
    · split
      · split <;> rfl
      · rfl
  · split <;> rfl
  · rfl
  · rfl

/-- A worker is started by a start, and stays started. -/
theorem started_act (node : Node) (input : Input) :
    (node.act input).1.started = (node.started || input.isStart) := by
  cases input with
  | start now link =>
      simp only [act, start, Input.isStart, Bool.or_true]
      split
      · assumption
      · split <;> rfl
  | stop now link =>
      simp only [act, stop, Input.isStart, Bool.or_false]
      split
      · rfl
      · cases phase : node.phase with
        | awaiting deadline =>
            simp only [started, phase]
            exact started_settle _ _ _
        | _ => simp [started, phase] <;> rfl
  | receive bytes sender now link =>
      simp only [act, receive, Input.isStart, Bool.or_false]
      split
      · rfl
      · split
        · rfl
        · exact started_take _ _ _ _ _
  | fire now link =>
      simp only [act, fire, Input.isStart, Bool.or_false]
      split
      · rename_i phase
        rw [started_settle]
        simp [started, phase]
      · rename_i phase
        simp only [beat]
        split <;> simp [started, phase] <;> rfl
      · rfl
      · rfl
  | heartbeat now link =>
      simp only [act, heartbeat, beat, Input.isStart, Bool.or_false]
      split <;> rfl
  | whenIdle =>
      simp only [act, whenIdle, Input.isStart, Bool.or_false]
      split <;> rfl
  | finish number result link =>
      simp only [act, Node.finish, Input.isStart, Bool.or_false]
      split
      · rfl
      · split <;> rfl

theorem started_run (node : Node) (inputs : List Input) :
    (node.run inputs).started = (node.started || inputs.any Input.isStart) := by
  induction inputs generalizing node with
  | nil => simp
  | cons input inputs ih => rw [run_cons, ih, started_act, List.any_cons, Bool.or_assoc]

end Node
end Worker

namespace Relay
namespace Coordinator

open Wire Device

/-- What one endpoint sends to a coordinator, in order. -/
def arrivalsFrom (sender : Endpoint) (inputs : List Input) : List Bytes :=
  inputs.filterMap fun
    | .receive bytes from' _ => if from' = sender then some bytes else none
    | _ => none

/-- An input that is no registration and no heartbeat of a device. -/
def Spares (config : Config) (id : String) : Input -> Prop
  | .receive bytes _ _ =>
      Wire.receive bytes config.maxMessageBytes ≠ .ok (.register id) ∧
        Wire.receive bytes config.maxMessageBytes ≠ .ok (.heartbeat id)
  | _ => True

/-- A device that is not active, if it is known at all. -/
def Absent (id : String) (relay : Relay) : Prop :=
  ∀ record, relay.registry.get? id = some record -> record.active = false

/-- A step that neither registers a device nor is a heartbeat of it keeps it absent. -/
theorem Absent.advance
    {id : String}
    {relay : Relay}
    (absent : Absent id relay)
    (sound : relay.registry.Sound)
    (step : Step)
    (spares : ∀ sender now, step ≠ .take (.register id) sender now ∧
      step ≠ .take (.heartbeat id) sender now) :
    Absent id (relay.advance step) := by
  rcases get?_advance sound step id with ⟨registers, _⟩ | ⟨_, after⟩
  · exfalso
    unfold Moment.registers at registers
    split at registers
    · rename_i other sender now same
      simp only [Bool.and_eq_true, beq_iff_eq] at registers
      exact (spares sender now).1 (registers.1 ▸ same)
    · rename_i other sender now same
      simp only [Bool.and_eq_true, beq_iff_eq] at registers
      exact (spares sender now).2 (registers.1.1.1 ▸ same)
    · simp at registers
  · intro record found
    rw [after] at found
    obtain ⟨before, known, rfl⟩ := Option.map_eq_some_iff.mp found
    have inactive := absent before known
    simp only [touched]
    split <;> split <;> simp_all [Record.deactivate, Record.beat]

/-- A device that is absent stays so until it registers or sends a heartbeat. -/
theorem Absent.run
    {id : String}
    {relay : Relay}
    (absent : Absent id relay)
    (sound : relay.registry.Sound)
    (steps : List Step)
    (spares : ∀ step ∈ steps, ∀ sender now, step ≠ .take (.register id) sender now ∧
      step ≠ .take (.heartbeat id) sender now) :
    Absent id (relay.run steps) := by
  induction steps generalizing relay with
  | nil => exact absent
  | cons step steps ih =>
      exact ih (absent.advance sound step (spares step List.mem_cons_self))
        (sound_advance sound step) fun other member => spares other (List.mem_cons_of_mem _ member)

/-- A coordinator keeps its registry sound, whatever reaches it. -/
theorem sound_after
    {coordinator : Coordinator}
    (sound : coordinator.relay.registry.Sound)
    (inputs : List Input) :
    (coordinator.after inputs).relay.registry.Sound ∧
    (coordinator.after inputs).running = coordinator.running ∧
    (coordinator.after inputs).config = coordinator.config := by
  induction inputs generalizing coordinator with
  | nil => exact ⟨sound, rfl, rfl⟩
  | cons input inputs ih =>
      obtain ⟨running, config, steps, relay, _, _⟩ := exists_steps_take coordinator input
      have next : (coordinator.take input).coordinator.relay.registry.Sound :=
        relay ▸ run_induction (P := fun relay => relay.registry.Sound) sound
          (fun _ step sound => sound_advance sound step) steps
      obtain ⟨last, running', config'⟩ := ih next
      exact ⟨last, running'.trans running, config'.trans config⟩

/-- Inputs that spare a device keep it absent. -/
theorem Absent.after
    {id : String}
    {coordinator : Coordinator}
    (absent : Absent id coordinator.relay)
    (sound : coordinator.relay.registry.Sound)
    (inputs : List Input)
    (spares : ∀ input ∈ inputs, Spares coordinator.config id input) :
    Absent id (coordinator.after inputs).relay := by
  induction inputs generalizing coordinator with
  | nil => exact absent
  | cons input inputs ih =>
      obtain ⟨_, config, steps, relay, _, taken⟩ := exists_steps_take coordinator input
      have spared := spares input List.mem_cons_self
      have next : (coordinator.take input).coordinator.relay.registry.Sound :=
        relay ▸ run_induction (P := fun relay => relay.registry.Sound) sound
          (fun _ step sound => sound_advance sound step) steps
      have kept : Absent id (coordinator.take input).coordinator.relay := by
        rw [relay]
        refine absent.run sound steps fun step member sender now => ⟨?_, ?_⟩
        · rintro rfl
          obtain ⟨bytes, rfl, received⟩ := taken _ _ _ member
          exact spared.1 received
        · rintro rfl
          obtain ⟨bytes, rfl, received⟩ := taken _ _ _ member
          exact spared.2 received
      exact ih kept next fun other member => by
        rw [config]
        exact spares other (List.mem_cons_of_mem _ member)

/-- A farewell leaves a device absent. -/
theorem absent_farewell
    {coordinator : Coordinator}
    (running : coordinator.running = true)
    {bytes : Bytes}
    {id : String}
    (received : Wire.receive bytes coordinator.config.maxMessageBytes = .ok (.unregister id))
    (sender : Endpoint)
    (now : Int) :
    Absent id (coordinator.take (.receive bytes sender now)).coordinator.relay := by
  have relay : (coordinator.take (.receive bytes sender now)).coordinator.relay =
      { coordinator.relay with
        registry := coordinator.relay.registry.update id (·.deactivate) } :=
    (receive_of_ok running received sender now).1
  intro record found
  rw [relay, Registry.get?_update_self _ _ (·.deactivate) fun _ => rfl] at found
  obtain ⟨before, _, rfl⟩ := Option.map_eq_some_iff.mp found
  rfl

/-- A device is absent once its farewell was the last that came from it. -/
theorem absent_of_farewell_last
    {config : Config}
    {here own : Endpoint}
    {began sends : Int}
    {id : String}
    (valid : ValidId id)
    (least : 64 ≤ sends)
    (least' : (64 : Int) ≤ config.maxMessageBytes)
    {prior : List Bytes}
    {inputs : List Input}
    (fifo : arrivalsFrom own inputs = prior ++ [Wire.encode (.unregister id) sends])
    (others : ∀ bytes sender time, .receive bytes sender time ∈ inputs -> sender ≠ own ->
      Spares config id (.receive bytes sender time)) :
    Absent id (((new config here).start began).coordinator.after inputs).relay := by
  obtain ⟨early, rest, rfl, _, late⟩ := List.filterMap_eq_append_iff.mp fifo
  obtain ⟨between, input, more, rfl, _, own', none⟩ := List.filterMap_eq_cons_iff.mp late
  have start : ((new config here).start began).coordinator.relay.registry.Sound :=
    Registry.sound_empty _ _
  obtain ⟨sound, running, same⟩ := sound_after start (early ++ between)
  rw [← List.append_assoc, after_append]
  generalize ((new config here).start began).coordinator.after (early ++ between) =
    coordinator at sound running same ⊢
  have config' : coordinator.config = config := same
  cases input with
  | fire now => simp at own'
  | tick now => simp at own'
  | receive bytes sender now =>
      obtain ⟨rfl, rfl⟩ : sender = own ∧ bytes = Wire.encode (.unregister id) sends := by
        simpa using own'
      have received := receive_encode_of_id least least' valid (.unregister id) (by simp)
      rw [← config'] at received
      have gone := absent_farewell running received sender now
      obtain ⟨next, _, kept⟩ := sound_after sound [.receive
        (Wire.encode (.unregister id) sends) sender now]
      refine gone.after next more fun input member => ?_
      rw [show (coordinator.take (.receive (Wire.encode (.unregister id) sends) sender
        now)).coordinator.config = config from kept.trans config']
      cases input with
      | fire now => trivial
      | tick now => trivial
      | receive bytes from' time =>
          refine others bytes from' time (by simp [member]) fun equal => ?_
          have some' := List.filterMap_eq_nil_iff.mp none _ member
          simp [equal] at some'

end Coordinator
end Relay

namespace Worker
namespace Node

open Wire

/-- The datagrams for one endpoint among what was sent, in order. -/
def datagramsFor (target : Endpoint) (config : Config) (sent : List (Endpoint × Message)) :
    List Bytes :=
  (sent.filter (·.1 = target)).map fun entry => Wire.encode entry.2 config.maxMessageBytes

/--
From its stop on, a worker sends its farewell at most, and this only if it had
been started; no timer of it runs. Where the farewell gets out, a running relay
that got all of the worker's datagrams in order, and hears of its id from nobody
else, does not hold the device active, whatever else comes and however long.
-/
theorem clean_stop_is_final
    (id : String)
    (relay : Endpoint)
    (config : Config)
    (before after : List Input)
    (now : Int)
    (link : Link) :
    (((new id relay config).run before).sent (.stop now link :: after) = [] ∨
      ((new id relay config).run before).sent (.stop now link :: after) =
          [(relay, .unregister id)] ∧
        before.any Input.isStart = true) ∧
    ((new id relay config).run (before ++ .stop now link :: after)).due? = none ∧
    ∀ (relayConfig : Config) (began : Int) (own : Endpoint)
      (inputs : List Relay.Coordinator.Input),
      before.any Input.isStart = true -> before.any Input.isStop = false -> link = none ->
      Device.ValidId id -> (64 : Int) ≤ config.maxMessageBytes ->
      (64 : Int) ≤ relayConfig.maxMessageBytes ->
      Relay.Coordinator.arrivalsFrom own inputs =
        datagramsFor relay config
          ((new id relay config).sent (before ++ .stop now link :: after)) ->
      (∀ bytes sender time, .receive bytes sender time ∈ inputs -> sender ≠ own ->
        Relay.Coordinator.Spares relayConfig id (.receive bytes sender time)) ->
      Relay.Coordinator.Absent id
        (((Relay.Coordinator.new relayConfig relay).start began).coordinator.after inputs).relay := by
  have named : ((new id relay config).run before).id = id := (run_identity _ before).1
  have homed : ((new id relay config).run before).relay = relay := (run_identity _ before).2
  have flag : ((new id relay config).run before).stopped = before.any Input.isStop :=
    stopped_run _ before
  have begun : ((new id relay config).run before).started = before.any Input.isStart :=
    started_run _ before
  have whole := sent_append (new id relay config) before (.stop now link :: after)
  rw [run_append]
  have fresh : (new id relay config).stopped = true -> (new id relay config).Silent :=
    fun stopped => by simp [new] at stopped
  have quiet := silent_of_stopped fresh before
  generalize (new id relay config).run before = node at named homed flag begun whole quiet ⊢
  cases stopped : node.stopped with
  | true =>
      obtain ⟨last, nothing⟩ := (quiet stopped).run (.stop now link :: after)
      refine ⟨.inl nothing, last.idle, ?_⟩
      intro relayConfig began own inputs _ unstopped
      rw [stopped, unstopped] at flag
      cases flag
  | false =>
      have open' : node.linkOf link = link := by simp [linkOf, stopped]
      obtain ⟨silent, farewell⟩ := silent_stop stopped now link
      rw [named, homed, begun] at farewell
      obtain ⟨last, nothing⟩ := silent.run after
      have sends : node.sent (.stop now link :: after) =
          if before.any Input.isStart = true ∧ link = none then [(relay, .unregister id)]
          else [] := by
        rw [sent, act, open', farewell, nothing, List.append_nil]
      refine ⟨?_, ?_, ?_⟩
      · rw [sends]
        split
        · rename_i both
          exact .inr ⟨rfl, both.1⟩
        · exact .inl rfl
      · rw [run_cons, act, open']
        exact last.idle
      · intro relayConfig began own inputs starts _ lossless valid least least' fifo others
        rw [whole, sends, if_pos ⟨starts, lossless⟩] at fifo
        have last : datagramsFor relay config
            ((new id relay config).sent before ++ [(relay, .unregister id)]) =
            datagramsFor relay config ((new id relay config).sent before) ++
              [Wire.encode (.unregister id) config.maxMessageBytes] := by
          simp [datagramsFor]
        rw [last] at fifo
        exact Relay.Coordinator.absent_of_farewell_last valid least least' fifo others

/-- A worker that is stopped after its registration was accepted: the relay, which ticks after
the farewell, holds it inactive. -/
theorem clean_stop_is_final_registered :
    ((new "cam-1" default {}).run
        [.start 0 none, .receive (Wire.encode (.registered "OK") 1024) default 1 none]).sent
      [.stop 5 none, .fire 6 none] = [(default, .unregister "cam-1")] ∧
    Relay.Coordinator.Absent "cam-1"
      (((Relay.Coordinator.new {} default).start 0).coordinator.after
        [.receive (Wire.encode (.register "cam-1") 1024) ⟨"10.0.0.1", 5001⟩ 0,
          .receive (Wire.encode (.request .time) 1024) ⟨"10.0.0.9", 6000⟩ 3,
          .receive (Wire.encode (.unregister "cam-1") 1024) ⟨"10.0.0.1", 5001⟩ 5,
          .tick 6]).relay := by
  obtain ⟨farewell, _, final⟩ := clean_stop_is_final "cam-1" default {}
    [.start 0 none, .receive (Wire.encode (.registered "OK") 1024) default 1 none]
    [.fire 6 none] 5 none
  have said := (farewell.resolve_left (by decide +kernel)).1
  have asked : Wire.receive (Wire.encode (.request .time) 1024) 1024 = .ok (.request .time) :=
    (survives_smallest_buffer 1024 (by decide) "cam-1" (by decide)).2.1 .time
  refine ⟨said, final {} 0 ⟨"10.0.0.1", 5001⟩ _ rfl rfl rfl (by decide) (by decide) (by decide)
    (by decide +kernel) ?_⟩
  intro bytes sender time member other
  simp only [List.mem_cons, List.not_mem_nil, or_false, reduceCtorEq,
    Relay.Coordinator.Input.receive.injEq] at member
  rcases member with ⟨_, rfl, _⟩ | ⟨rfl, _, _⟩ | ⟨_, rfl, _⟩
  · exact absurd rfl other
  · simp [Relay.Coordinator.Spares, asked]
  · exact absurd rfl other

end Node
end Worker
end CameraFleet
