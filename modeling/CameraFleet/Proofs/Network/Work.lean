import CameraFleet.Proofs.Network.Growth
import Mathlib.Algebra.BigOperators.Group.List.Basic
import Mathlib.Algebra.Order.BigOperators.Group.List

/-!
# Work in a network

A datagram that is delivered, or a command that ends, is paid out of what it is
charged with: the step of the node has no larger load. So every piece of work
leaves less to be done, in whatever order the pieces are done.
-/

namespace CameraFleet
namespace Network

open Wire

variable {own : Endpoint} {devices : Nat} {net : Network} {place : Nat} {station : Station}

/-! ## Relays -/

/-- The datagrams that an action of a relay sends. -/
def relayCount : Relay.Coordinator.Action -> Nat
  | .report _ => 0
  | .send _ _ => 1

/-- The load of an action of a relay. -/
noncomputable def relayLoad
    (own : Endpoint)
    (devices : Nat) : Relay.Coordinator.Action -> Nat
  | .report _ => 0
  | .send target bytes => 1 + charge own devices target bytes

/-- What is sent goes where a message goes. -/
theorem mem_perform
    {result : Relay.Coordinator.Result}
    {fate : Nat -> Relay.Coordinator.Fate}
    {target : Endpoint}
    {bytes : Bytes}
    (member : .send target bytes ∈ (result.perform fate).2) :
    ∃ out ∈ result.out, out.target = target := by
  rw [Relay.Coordinator.perform_eq] at member
  simp only [Relay.Coordinator.sentOf, Relay.Coordinator.warningsOf, List.mem_append, List.mem_map,
    List.mem_filterMap, List.mem_filter] at member
  obtain (⟨_, _, no⟩ | ⟨entry, ⟨place, _⟩, same⟩) | ⟨entry, _, no⟩ := member
  · cases no
  · cases same
    exact ⟨entry.1, List.fst_mem_of_mem_zipIdx place, rfl⟩
  · simp at no

/-- The load of a step is at most that of its messages, some of which may not get out. -/
theorem sum_perform_le
    (result : Relay.Coordinator.Result)
    (fate : Nat -> Relay.Coordinator.Fate) :
    ((result.perform fate).2.map (relayLoad own devices)).sum ≤
      (result.out.map fun out =>
        1 + charge own devices out.target (result.coordinator.datagram out.message)).sum := by
  have told : (result.events.map (relayLoad own devices ∘ .report)).sum = 0 :=
    List.sum_eq_zero (by simp [relayLoad])
  have warned (first : Nat) :
      ((Relay.Coordinator.warningsOf fate first result.out).map (relayLoad own devices)).sum = 0 :=
    List.sum_eq_zero (by
      simp only [Relay.Coordinator.warningsOf, List.map_filterMap, List.mem_filterMap]
      rintro load ⟨entry, _, made⟩
      cases known : fate entry.2 <;> simp_all [relayLoad])
  have sent (first : Nat) :
      ((result.coordinator.sentOf fate first result.out).map (relayLoad own devices)).sum ≤
        (result.out.map fun out =>
          1 + charge own devices out.target (result.coordinator.datagram out.message)).sum := by
    rw [← Relay.Coordinator.map_fst_zipIdx _ result.out first, Relay.Coordinator.sentOf,
      List.map_map]
    exact (List.filter_sublist.map _).sum_le_sum fun _ _ => Nat.zero_le _
  rw [Relay.Coordinator.perform_eq, List.map_append, List.map_append, List.sum_append,
    List.sum_append, List.map_map, told, warned, Nat.zero_add, Nat.add_zero]
  exact sent 0

/-- A step of the relay that sends nothing to itself: its load is that of its messages. -/
theorem grows_performRelay
    (orderly : Orderly own devices net)
    (placed : (net.stations.map (·.here))[place]? = some own)
    {result : Relay.Coordinator.Result}
    (apart : Relay.Apart own devices result.coordinator.relay)
    (far : ∀ out ∈ result.out, out.target ≠ own) :
    ∃ count, Grows own devices net (net.performRelay place station result) count
      (result.out.map fun out =>
        1 + charge own devices out.target (result.coordinator.datagram out.message)).sum := by
  have replaced := grows_setParty orderly placed
    (show Fits own devices own (.relay result.coordinator) from ⟨rfl, apart⟩)
  have each (between : Network) (action : Relay.Coordinator.Action)
      (member : action ∈ (result.perform fun _ => net.link station).2)
      (orderly : Orderly own devices between) :
      Grows own devices between (performRelayAction station between action) (relayCount action)
        (relayLoad own devices action) := by
    cases action with
    | report event => exact grows_observeLine orderly _ _
    | send target bytes =>
        obtain ⟨out, inside, rfl⟩ := mem_perform member
        exact grows_post orderly fun _ => far out inside
  have performed := replaced.trans (grows_foldl _ (fun between action member orderly _ =>
    each between action member orderly) replaced.orderly)
  have same : net.performRelay place station result =
      (result.perform fun _ => net.link station).2.foldl (performRelayAction station)
        (net.setParty place (.relay result.coordinator)) := by
    simp only [performRelay, Relay.Coordinator.perform_eq]
  rw [same]
  exact ⟨_, performed.mono (by simpa using sum_perform_le result _)⟩

/-- Nothing that reaches a coordinator brings its relay together with itself, unless it comes from
there. -/
theorem apart_take
    {coordinator : Relay.Coordinator}
    (apart : Relay.Apart own devices coordinator.relay)
    (input : Relay.Coordinator.Input)
    (foreign : ∀ bytes sender now, input = .receive bytes sender now -> sender ≠ own) :
    Relay.Apart own devices (coordinator.take input).coordinator.relay := by
  obtain ⟨_, _, steps, after, _, taken⟩ := coordinator.exists_steps_take input
  rw [after]
  refine apart.run steps fun message sender now member => ?_
  obtain ⟨bytes, same, _⟩ := taken message sender now member
  exact foreign bytes sender now same

/-- What a message makes the relay send is paid out of what the datagram is charged with. -/
theorem sum_sends_le
    {message : Message}
    {bytes : Bytes}
    {buffer : Int}
    (received : receive bytes buffer = .ok message)
    (room : 0 < devices)
    {out : List Outbound}
    (sends : Relay.Sends own devices message out)
    (maxBytes : Int) :
    (out.map fun sent =>
      1 + charge own devices sent.target (encode sent.message maxBytes)).sum ≤
      charge own devices own bytes := by
  cases sends with
  | nothing => exact Nat.zero_le _
  | @one sent far quiet =>
      rw [List.map_singleton, List.sum_singleton,
        charge_quiet _ _ _ (not_asks_encode quiet maxBytes), if_neg far, charge, if_pos rfl]
      split <;> omega
  | @broadcast kind asks _ far few =>
      have asked : Asks bytes := ⟨buffer, kind, asks ▸ received⟩
      have each : ∀ load ∈ out.map (fun sent =>
          1 + charge own devices sent.target (encode sent.message maxBytes)), load ≤ 3 := by
        intro load member
        obtain ⟨sent, inside, rfl⟩ := List.mem_map.mp member
        have := charge_far_le (far sent inside) devices (encode sent.message maxBytes)
        omega
      have all := List.sum_le_card_nsmul _ 3 each
      rw [List.length_map, Nat.nsmul_eq_mul] at all
      rw [charge, if_pos rfl, if_pos asked]
      omega

/-- The load of a datagram at the relay is at most what it is charged with. -/
theorem sum_receive_le
    {coordinator : Relay.Coordinator}
    (apart : Relay.Apart own devices coordinator.relay)
    (room : 0 < devices)
    (bytes : Bytes)
    {sender : Endpoint}
    (foreign : sender ≠ own)
    (now : Int) :
    (∀ out ∈ (coordinator.receive bytes sender now).out, out.target ≠ own) ∧
    ((coordinator.receive bytes sender now).out.map fun out => 1 + charge own devices out.target
        ((coordinator.receive bytes sender now).coordinator.datagram out.message)).sum ≤
      charge own devices own bytes := by
  unfold Relay.Coordinator.receive
  split
  · split
    · simp
    · simp
    · rename_i message received
      have sends := apart.sends message foreign now
      exact ⟨sends.far, sum_sends_le received room sends _⟩
  · simp

/-! ## Workers -/

/-- The datagrams that an action of a worker sends. -/
def workerCount : Worker.Action -> Nat
  | .send _ _ => 1
  | _ => 0

/-- The load of an action of a worker. -/
noncomputable def workerLoad
    (own : Endpoint)
    (devices : Nat)
    (node : Worker.Node) : Worker.Action -> Nat
  | .send target message => 1 + charge own devices target (node.datagram message)
  | .run _ _ => 2
  | _ => 0

/-- A runner whose commands end at once goes on so. -/
theorem AtOnce.answer {runner : Runner} (atOnce : AtOnce runner) (command : Command) :
    (runner.answer command).1.delay = none ∧ AtOnce (runner.answer command).2 := by
  cases runner with
  | live run => exact ⟨rfl, trivial⟩
  | scripted answers =>
      cases answers with
      | nil => exact ⟨rfl, by simp [AtOnce, Runner.answer]⟩
      | cons first rest =>
          exact ⟨atOnce first List.mem_cons_self, fun answer member =>
            atOnce answer (List.mem_cons_of_mem first member)⟩

/-- A command that is begun is charged until it ends. -/
theorem grows_runCommand
    (orderly : Orderly own devices net)
    (placed : (net.stations.map (·.here))[place]? = some station.here)
    (fits : Fits own devices station.here station.party)
    (job : Nat)
    (command : Command) :
    Grows own devices net (net.runCommand place station job command) 0 2 := by
  unfold runCommand
  split
  · rename_i node runner party
    rw [party] at fits
    obtain ⟨far, atOnce⟩ := fits
    obtain ⟨never, later⟩ := atOnce.answer command
    have told := grows_observe orderly (show sent? (.run station.name command) = none from rfl)
    have replaced := told.trans (grows_setParty told.orderly placed
      (show Fits own devices station.here (.worker node (runner.answer command).2) from
        ⟨far, later⟩))
    refine ⟨⟨replaced.orderly.stations, replaced.orderly.queue, ?_, replaced.orderly.sent⟩,
      replaced.here, replaced.sent, replaced.queue, ?_⟩
    · intro ended member
      rcases List.mem_append.mp member with old | new
      · exact replaced.orderly.running ended old
      · rw [List.mem_singleton.mp new]
        simp [never]
    · have := replaced.debt
      simp only [debt, List.length_append, List.length_singleton] at this ⊢
      omega
  · exact (Grows.refl orderly).mono (Nat.zero_le 2)

/-- One action of a worker. -/
theorem grows_performWorkerAction
    (orderly : Orderly own devices net)
    (placed : (net.stations.map (·.here))[place]? = some station.here)
    (far : station.here ≠ own)
    (fits : Fits own devices station.here station.party)
    (node : Worker.Node)
    (action : Worker.Action) :
    Grows own devices net (performWorkerAction place station node net action)
      (workerCount action) (workerLoad own devices node action) := by
  cases action with
  | report event => exact grows_observeLine orderly _ _
  | send target message => exact grows_post orderly fun same => absurd same far
  | run job command => exact grows_runCommand orderly placed fits job command
  | close => exact grows_release orderly place station
  | started result => exact grows_observe orderly rfl
  | stopped => exact grows_observe orderly rfl
  | heartbeatDone => exact grows_observe orderly rfl
  | idle => exact grows_observe orderly rfl

/-- A step of a worker: its load is that of its actions. -/
theorem grows_performWorker
    (orderly : Orderly own devices net)
    (placed : (net.stations.map (·.here))[place]? = some station.here)
    (far : station.here ≠ own)
    {runner : Runner}
    (atOnce : AtOnce runner)
    (step : Worker.Node × List Worker.Action) :
    Grows own devices net (net.performWorker place station runner step)
      (step.2.map workerCount).sum (step.2.map (workerLoad own devices step.1)).sum := by
  have fits : Fits own devices station.here (.worker step.1 runner) := ⟨far, atOnce⟩
  have replaced := grows_setParty orderly placed fits
  let stepped : Station := { station with party := .worker step.1 runner }
  have each (between : Network) (action : Worker.Action)
      (orderly : Orderly own devices between)
      (same : between.stations.map (·.here) =
        (net.setParty place stepped.party).stations.map (·.here)) :
      Grows own devices between (performWorkerAction place stepped step.1 between action)
        (workerCount action) (workerLoad own devices step.1 action) :=
    grows_performWorkerAction orderly (by rw [same, replaced.here]; exact placed)
      (show stepped.here ≠ own from far) fits step.1 action
  have performed := replaced.trans (grows_foldl step.2
    (fun between action _ => each between action) replaced.orderly)
  rw [Nat.zero_add, Nat.zero_add] at performed
  exact performed

/-- The actions that send nothing and run nothing. -/
def Quiet (action : Worker.Action) : Prop :=
  (∀ target message, action ≠ .send target message) ∧ ∀ job command, action ≠ .run job command

theorem workerLoad_quiet
    {action : Worker.Action}
    (quiet : Quiet action)
    (node : Worker.Node) :
    workerLoad own devices node action = 0 := by
  cases action with
  | send target message => exact absurd rfl (quiet.1 target message)
  | run job command => exact absurd rfl (quiet.2 job command)
  | _ => rfl

/-- Actions that send nothing and run nothing have no load. -/
theorem sum_workerLoad_quiet
    (own : Endpoint)
    (devices : Nat)
    {actions : List Worker.Action}
    (quiet : ∀ action ∈ actions, Quiet action)
    (node : Worker.Node) :
    (actions.map (workerLoad own devices node)).sum = 0 :=
  List.sum_eq_zero fun load member => by
    obtain ⟨action, inside, rfl⟩ := List.mem_map.mp member
    exact workerLoad_quiet (quiet action inside) node

/-- A message that is no broadcast has a load of two at most, and none if it does not get out. -/
theorem sum_transmit_le
    (own : Endpoint)
    (devices : Nat)
    (link : Worker.Link)
    (target : Endpoint)
    {message : Message}
    (other : ∀ kind, message ≠ .request kind)
    {onSent : List Worker.Action}
    (quiet : ∀ action ∈ onSent, Quiet action)
    (node : Worker.Node) :
    ((Worker.Node.transmit link target message onSent).map (workerLoad own devices node)).sum ≤ 2 ∧
    ((Worker.Node.transmit link target message onSent).map (workerLoad own devices node)).sum ≤
      2 * ((Worker.Node.transmit link target message onSent).map workerCount).sum := by
  have free := charge_quiet own devices target (not_asks_encode other node.config.maxMessageBytes)
  cases link with
  | some reason => simp [Worker.Node.transmit, workerLoad]
  | none =>
      have more := sum_workerLoad_quiet own devices quiet node
      have few : charge own devices target (node.datagram message) ≤ 1 := by
        rw [Worker.Node.datagram, free]
        split <;> omega
      simp only [Worker.Node.transmit, List.map_cons, List.sum_cons, workerLoad, workerCount, more]
      omega

/-- The load of a datagram at a worker is at most what it is charged with. -/
theorem sum_worker_receive_le
    {here : Endpoint}
    (far : here ≠ own)
    (node : Worker.Node)
    (bytes : Bytes)
    (sender : Endpoint)
    (now : Int)
    (link : Worker.Link) :
    ((node.receive bytes sender now link).2.map
      (workerLoad own devices (node.receive bytes sender now link).1)).sum ≤
      charge own devices here bytes := by
  unfold Worker.Node.receive
  split
  · exact Nat.zero_le _
  · split
    · simp [workerLoad]
    · rename_i message received
      cases message with
      | request kind =>
          have asked : Asks bytes := ⟨_, kind, received⟩
          rw [charge, if_neg far, if_pos asked]
          dsimp only [Worker.Node.take]
          cases Worker.Job.ofKind? kind with
          | some job => simp [Worker.Node.begin, workerLoad]
          | none =>
              have other : ∀ kind,
                  Message.reply .time node.id (Calendar.localTime (some now)) ≠ .request kind := by
                simp
              have sent := (sum_transmit_le own devices link sender other
                (show ∀ action ∈ [], Quiet action by simp) node).1
              simpa [workerLoad] using sent
      | registered status =>
          have quiet : ∀ action ∈ (node.takeStatus status now).2, Quiet action := by
            unfold Worker.Node.takeStatus Worker.Node.settle Worker.Node.beginBeating
            intro action
            split
            · dsimp only
              split <;> simp +contextual [Quiet, or_imp]
            · split
              · split <;> simp +contextual [Quiet]
              · simp +contextual [Quiet]
          exact (sum_workerLoad_quiet own devices quiet _).le.trans (Nat.zero_le _)
      | _ => simp [Worker.Node.take, workerLoad]

/-- What a finished command tells the log. -/
theorem quiet_conclude
    (node : Worker.Node)
    (pending : Worker.Pending)
    (result : Except String Worker.RunResult) :
    ∀ action ∈ (node.conclude pending result).2, Quiet action := by
  cases result with
  | error reason => simp [Worker.Node.conclude, Quiet]
  | ok result =>
      dsimp only [Worker.Node.conclude, Worker.Node.runWarning]
      split <;> simp [Quiet]

/-- The load of the end of a job is two at most, and none if no reply gets out. -/
theorem sum_finish_le
    (own : Endpoint)
    (devices : Nat)
    (node : Worker.Node)
    (job : Nat)
    (result : Except String Worker.RunResult)
    (link : Worker.Link) :
    ((node.finish job result link).2.map
      (workerLoad own devices (node.finish job result link).1)).sum ≤ 2 ∧
    ((node.finish job result link).2.map
      (workerLoad own devices (node.finish job result link).1)).sum ≤
      2 * ((node.finish job result link).2.map workerCount).sum := by
  unfold Worker.Node.finish
  split
  · simp
  · rename_i pending _
    have told := sum_workerLoad_quiet own devices (quiet_conclude node pending result)
    have woken (waiters : Nat) : ∀ action ∈ List.replicate waiters .idle, Quiet action :=
      fun action member => by simp [List.eq_of_mem_replicate member, Quiet]
    have woken (waiters : Nat) := sum_workerLoad_quiet own devices (woken waiters)
    dsimp only
    generalize replied : (if node.stopped = true then _ else _ : List Worker.Action) = reply
    have paid (after : Worker.Node) :
        (reply.map (workerLoad own devices after)).sum ≤ 2 ∧
          (reply.map (workerLoad own devices after)).sum ≤ 2 * (reply.map workerCount).sum := by
      rw [← replied]
      split
      · simp [workerLoad]
      · exact sum_transmit_le own devices link pending.replyTo (by simp) (by simp [Quiet]) after
    split <;>
      simp only [List.map_append, List.sum_append, told, woken, Nat.zero_add, Nat.add_zero] <;>
      exact ⟨(paid _).1, (paid _).2.trans (by omega)⟩

/-! ## Controllers -/

/-- The datagrams that an action of a controller sends. -/
def controllerCount : Controller.Action -> Nat
  | .send _ _ => 1
  | _ => 0

/-- The load of an action of a controller. -/
noncomputable def controllerLoad
    (own : Endpoint)
    (devices : Nat)
    (controller : Controller) : Controller.Action -> Nat
  | .send target message => 1 + charge own devices target (controller.datagram message)
  | _ => 0

/-- A step of a controller: its load is that of its actions. -/
theorem grows_performController
    (orderly : Orderly own devices net)
    (placed : (net.stations.map (·.here))[place]? = some station.here)
    (far : station.here ≠ own)
    (step : Controller × List Controller.Action) :
    Grows own devices net (net.performController place station step)
      (step.2.map controllerCount).sum (step.2.map (controllerLoad own devices step.1)).sum := by
  have replaced := grows_setParty orderly placed
    (show Fits own devices station.here (.controller step.1) from far)
  have each (between : Network) (action : Controller.Action)
      (orderly : Orderly own devices between) :
      Grows own devices between (performControllerAction station step.1 between action)
        (controllerCount action) (controllerLoad own devices step.1 action) := by
    cases action with
    | report event => exact grows_observeLine orderly _ _
    | send target message => exact grows_post orderly fun same => absurd same far
    | display shown => exact grows_observe orderly rfl
    | requested sent => exact grows_observe orderly rfl
  have performed := replaced.trans (grows_foldl step.2
    (fun between action _ orderly _ => each between action orderly) replaced.orderly)
  rw [Nat.zero_add, Nat.zero_add] at performed
  exact performed

/-- A controller answers nothing. -/
theorem sum_controller_receive
    (own : Endpoint)
    (devices : Nat)
    (controller : Controller)
    (bytes : Bytes)
    (sender : Endpoint)
    (now : Int) :
    ((controller.receive bytes sender now).2.map
      (controllerLoad own devices (controller.receive bytes sender now).1)).sum = 0 := by
  unfold Controller.receive
  split
  · simp [controllerLoad]
  · rename_i message _
    cases message with
    | error code detail =>
        dsimp only [Controller.take]
        split <;> simp [controllerLoad]
    | _ => simp [Controller.take, controllerLoad]

/-! ## Pieces of work -/

/-- A node that takes a datagram is paid out of what the datagram is charged with. -/
theorem grows_handTo
    (orderly : Orderly own devices net)
    (room : 0 < devices)
    (found : net.stations[place]? = some station)
    (bytes : Bytes)
    {sender : Endpoint}
    (foreign : station.here = own -> sender ≠ own) :
    ∃ count, Grows own devices net (net.handTo place station bytes sender) count
      (charge own devices station.here bytes) := by
  have fits := orderly.stations place station found
  have placed : (net.stations.map (·.here))[place]? = some station.here := by
    rw [List.getElem?_map, found, Option.map_some]
  unfold handTo
  split
  · rename_i coordinator party
    rw [party] at fits
    obtain ⟨here, apart⟩ := fits
    obtain ⟨far, paid⟩ := sum_receive_le apart room bytes (foreign here) net.now
    have after := apart_take apart (.receive bytes sender net.now) fun _ _ _ same => by
      cases same
      exact foreign here
    obtain ⟨count, grows⟩ := grows_performRelay orderly (here ▸ placed) after far
    exact ⟨count, grows.mono (here ▸ paid)⟩
  · rename_i node runner party
    rw [party] at fits
    obtain ⟨far, atOnce⟩ := fits
    exact ⟨_, (grows_performWorker orderly placed far atOnce _).mono
      (sum_worker_receive_le far node bytes sender net.now _)⟩
  · rename_i controller party
    rw [party] at fits
    have nothing := sum_controller_receive own devices controller bytes sender net.now
    exact ⟨_, (grows_performController orderly placed fits _).mono
      (nothing.le.trans (Nat.zero_le _))⟩

/-- The newest station that meets a condition is a station that meets it. -/
theorem newest?_eq_some
    {condition : Station -> Bool}
    (newest : net.newest? condition = some (place, station)) :
    net.stations[place]? = some station ∧ condition station = true := by
  simp only [newest?, Option.map_eq_some_iff] at newest
  obtain ⟨⟨other, number⟩, found, same⟩ := newest
  cases same
  have member := List.mem_reverse.mp (List.mem_of_find?_eq_some found)
  exact ⟨List.mk_mem_zipIdx_iff_getElem?.mp member, by simpa using List.find?_some found⟩

/-- A delivery is paid out of what the datagram is charged with. -/
theorem grows_deliver
    (orderly : Orderly own devices net)
    (room : 0 < devices)
    {datagram : Datagram}
    (proper : Proper own datagram) :
    ∃ count, Grows own devices net (net.deliver datagram) count
      (charge own devices datagram.target datagram.bytes) := by
  unfold deliver
  split
  · rename_i place station bound
    obtain ⟨found, here⟩ := newest?_eq_some bound
    have here : station.here = datagram.target := by simpa using here
    split
    · rw [← here]
      exact grows_handTo orderly room found datagram.bytes fun there same =>
        proper same (here ▸ there)
    · exact ⟨0, (Grows.refl orderly).mono (Nat.zero_le _)⟩
  · exact ⟨0, (Grows.refl orderly).mono (Nat.zero_le _)⟩

/-- The end of a command sends a reply at most. -/
theorem grows_finishJob
    (orderly : Orderly own devices net)
    (ended : Running) :
    ∃ count load, Grows own devices net (net.finishJob ended) count load ∧
      load ≤ 2 ∧ load ≤ 2 * count := by
  have nothing : ∃ count load, Grows own devices net net count load ∧
      load ≤ 2 ∧ load ≤ 2 * count :=
    ⟨0, 0, .refl orderly, by omega, by omega⟩
  unfold finishJob
  split
  · rename_i station found
    have fits := orderly.stations _ station found
    split
    · rename_i node runner party
      rw [party] at fits
      obtain ⟨far, atOnce⟩ := fits
      have paid := sum_finish_le own devices node ended.job ended.result (net.link station)
      exact ⟨_, _, grows_performWorker orderly (by rw [List.getElem?_map, found, Option.map_some])
        far atOnce _, paid⟩
    · exact nothing
  · exact nothing

/-- A piece of work: any datagram on its way is delivered, or any command that runs ends. -/
inductive Works (net : Network) : Network -> Prop
  /-- A datagram is delivered. -/
  | deliver {early late : List Datagram} {datagram : Datagram}
      (waiting : net.queue = early ++ datagram :: late) :
      Works net ({ net with queue := early ++ late }.deliver datagram)
  /-- A command ends. -/
  | finish {early late : List Running} {ended : Running}
      (runs : net.running = early ++ ended :: late) :
      Works net ({ net with running := early ++ late }.finishJob ended)

/-- What is left to be done: the queue counts once, and what it can lead to twice. -/
noncomputable def rank (own : Endpoint) (devices : Nat) (net : Network) : Nat :=
  2 * net.debt own devices + net.queue.length

/-- A piece of work keeps the network orderly, pays for what it sends, and leaves less to be
done. -/
theorem Works.orderly
    {after : Network}
    (works : Works net after)
    (orderly : Orderly own devices net)
    (room : 0 < devices) :
    Orderly own devices after ∧
    (∃ more, after.sent = net.sent ++ more ∧
      after.debt own devices + more.length ≤ net.debt own devices) ∧
    after.rank own devices < net.rank own devices := by
  cases works with
  | @deliver early late datagram waiting =>
      have member : datagram ∈ net.queue := by simp [waiting]
      generalize without : ({ net with queue := early ++ late } : Network) = rest
      have kept : Orderly own devices rest := by
        refine without ▸ ⟨orderly.stations, fun other member => orderly.queue other ?_,
          orderly.running, orderly.sent⟩
        rw [waiting]
        rcases List.mem_append.mp member with old | new <;> simp_all
      obtain ⟨count, grows⟩ := grows_deliver kept room (orderly.queue datagram member)
      obtain ⟨more, sent, length⟩ := grows.sent
      have before : net.sent = rest.sent := without ▸ rfl
      have paid : net.debt own devices =
          rest.debt own devices + charge own devices datagram.target datagram.bytes := by
        simp only [← without, debt, waiting, List.map_append, List.map_cons, List.sum_append,
          List.sum_cons]
        omega
      have shorter : net.queue.length = rest.queue.length + 1 := by
        simp only [← without, waiting, List.length_append, List.length_cons]
        omega
      have debt := grows.debt
      have queue := grows.queue
      exact ⟨grows.orderly, ⟨more, before ▸ sent, by omega⟩, by unfold rank; omega⟩
  | @finish early late ended runs =>
      generalize without : ({ net with running := early ++ late } : Network) = rest
      have kept : Orderly own devices rest := by
        refine without ▸ ⟨orderly.stations, orderly.queue, fun other member =>
          orderly.running other ?_, orderly.sent⟩
        rw [runs]
        rcases List.mem_append.mp member with old | new <;> simp_all
      obtain ⟨count, load, grows, few, sends⟩ := grows_finishJob kept ended
      obtain ⟨more, sent, length⟩ := grows.sent
      have before : net.sent = rest.sent := without ▸ rfl
      have paid : net.debt own devices = rest.debt own devices + 2 := by
        simp only [← without, Network.debt, runs, List.length_append, List.length_cons]
        omega
      have same : net.queue.length = rest.queue.length := without ▸ rfl
      have debt := grows.debt
      have queue := grows.queue
      exact ⟨grows.orderly, ⟨more, before ▸ sent, by omega⟩, by unfold rank; omega⟩

/-- What is taken out of a list was in it. -/
theorem extract?_eq_some
    {α : Type}
    {condition : α -> Bool}
    {list others : List α}
    {found : α}
    (extracted : extract? condition list = some (found, others)) :
    ∃ early late, list = early ++ found :: late ∧ others = early ++ late := by
  induction list generalizing others with
  | nil => simp [extract?] at extracted
  | cons first rest ih =>
      unfold extract? at extracted
      split at extracted
      · cases extracted
        exact ⟨[], _, rfl, rfl⟩
      · simp only [Option.map_eq_some_iff] at extracted
        obtain ⟨⟨other, left⟩, inner, same⟩ := extracted
        cases same
        obtain ⟨early, late, rfl, rfl⟩ := ih inner
        exact ⟨first :: early, late, rfl, rfl⟩

/-- What the network does next is a piece of work. -/
theorem works_workOnce?
    {after : Network}
    (next : net.workOnce? = some after) :
    Works net after := by
  unfold workOnce? at next
  split at next
  · rename_i ended others extracted
    obtain ⟨early, late, runs, rfl⟩ := extract?_eq_some extracted
    exact Option.some.inj next ▸ .finish runs
  · split at next
    · cases next
    · rename_i datagram rest waiting
      exact Option.some.inj next ▸
        Works.deliver (show net.queue = [] ++ datagram :: rest from waiting)

end Network
end CameraFleet
