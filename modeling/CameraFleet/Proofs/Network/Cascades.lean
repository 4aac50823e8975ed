import CameraFleet.Proofs.Network.Work

/-!
# Cascades end

Every node answers some messages. In a network with one relay that is never its
own requester nor its own device, a datagram still leads to few others only: the
relay asks each device at most once, each device answers once, and each answer is
forwarded once.
-/

namespace CameraFleet
namespace Network

open Wire

variable {own : Endpoint} {config : Config} {net : Network}

/-! ## States that can be reached -/

/-- What may be asked of a node, in a network with a relay at `own`. -/
inductive Call (own : Endpoint) : (Network -> Nat -> Station -> Network) -> Prop
  | start : Call own startAt
  | stop : Call own stopAt
  | close : Call own closeAt
  | whenIdle : Call own whenIdleAt
  | heartbeat : Call own heartbeatAt
  | tick : Call own tickAt
  | snapshot : Call own snapshotAt
  | request (kind : Kind) : Call own (requestAt kind)
  | hand (bytes : Bytes) {sender : Endpoint} (foreign : sender ≠ own) :
      Call own fun net place station => net.handTo place station bytes sender

/-- The networks that come about, in any order of what happens: one relay at `own`, all other
nodes elsewhere, with commands that end at once, and nobody else who sends from there. -/
inductive Reachable (own : Endpoint) (config : Config) : Network -> Prop
  /-- At first there is the relay. -/
  | relay (now : Int) (verbose : Bool) (name : String) :
      Reachable own config (({ now, verbose } : Network).addRelay name own config)
  /-- A worker joins. -/
  | worker {net : Network} (reached : Reachable own config net) {here : Endpoint}
      (far : here ≠ own) {runner : Runner} (atOnce : AtOnce runner) (name id : String)
      (relay : Endpoint) (settings : Config) :
      Reachable own config (net.addWorker name here id relay settings runner)
  /-- A controller joins. -/
  | controller {net : Network} (reached : Reachable own config net) {here : Endpoint}
      (far : here ≠ own) (name : String) (controller : Controller) :
      Reachable own config (net.addController name here controller)
  /-- Something is asked of a node. -/
  | call {net : Network} (reached : Reachable own config net)
      {act : Network -> Nat -> Station -> Network} (call : Call own act)
      {place : Nat} {station : Station} (found : net.stations[place]? = some station) :
      Reachable own config (act net place station)
  /-- An alarm goes off. -/
  | ring {net : Network} (reached : Reachable own config net) (alarm : Alarm) :
      Reachable own config (net.ring alarm)
  /-- A piece of work is done. -/
  | work {net after : Network} (reached : Reachable own config net) (works : Works net after) :
      Reachable own config after
  /-- A datagram comes from outside. -/
  | post {net : Network} (reached : Reachable own config net) (datagram : Datagram)
      (foreign : datagram.source ≠ own) :
      Reachable own config (net.post datagram)
  /-- Time goes on, rules and blocked endpoints come and go, and the trace is perhaps cleared. -/
  | world {net after : Network} (reached : Reachable own config net)
      (stations : after.stations = net.stations) (queue : after.queue = net.queue)
      (running : after.running = net.running)
      (trace : after.trace = net.trace ∨ after.trace = #[]) :
      Reachable own config after

/-- Doing all work leads to states that can be reached, -/
theorem Reachable.settleWithin
    (reached : Reachable own config net)
    (pieces : Nat) :
    Reachable own config (settleWithin pieces net) := by
  induction pieces generalizing net with
  | zero => exact reached
  | succ pieces ih =>
      unfold Network.settleWithin
      split
      · exact reached
      · rename_i after next
        exact ih (reached.work (works_workOnce? next))

/-- and so does asking something of the node of a name, -/
theorem Reachable.withNamed
    (reached : Reachable own config net)
    {act : Network -> Nat -> Station -> Network}
    (call : Call own act)
    (name : String) :
    Reachable own config (net.withNamed name act) := by
  unfold Network.withNamed
  split
  · rename_i place station named
    exact (reached.call call (newest?_eq_some named).1).settleWithin _
  · exact reached

/-- and so does moving the clock. -/
theorem Reachable.advance
    (reached : Reachable own config net)
    (ms : Int) :
    Reachable own config (net.advance ms) := by
  have clock {net : Network} (reached : Reachable own config net) (now : Int) :
      Reachable own config { net with now } :=
    reached.world rfl rfl rfl (.inl rfl)
  have within (steps : Nat) (target : Int) :
      Reachable own config (advanceWithin steps target net) := by
    induction steps generalizing net with
    | zero => exact clock reached target
    | succ steps ih =>
        unfold advanceWithin
        split
        · split
          · exact ih (((clock reached _).ring _).settleWithin _)
          · exact clock reached target
        · exact clock reached target
  exact within _ _

/-! ## What is reached is orderly -/

/-- A node that joins where it may be. -/
theorem Orderly.add
    {devices : Nat}
    (orderly : Orderly own devices net)
    {station : Station}
    (fits : Fits own devices station.here station.party) :
    Orderly own devices (net.add station) := by
  refine ⟨fun place other found => ?_, orderly.queue, orderly.running, orderly.sent⟩
  rcases List.mem_append.mp (List.mem_of_getElem? found) with old | new
  · obtain ⟨place, known⟩ := List.mem_iff_getElem?.mp old
    exact orderly.stations place other known
  · exact List.mem_singleton.mp new ▸ fits

/-- A new relay has heard of nobody. -/
theorem apart_new (own : Endpoint) (config : Config) :
    Relay.Apart own config.maxDevices (Relay.new config) where
  records := by
    intro record member
    simp [Relay.new] at member
  last := by simp [Relay.new]
  session := by simp [Relay.new]
  sound := Device.Registry.sound_empty _ _
  capacity := rfl

section Calls

variable {devices place : Nat} {station : Station}

/-- Where a station is. -/
theorem placed_of_found (found : net.stations[place]? = some station) :
    (net.stations.map (·.here))[place]? = some station.here := by
  rw [List.getElem?_map, found, Option.map_some]

/-- A step of the relay in which it sends nothing. -/
theorem Orderly.relay
    (orderly : Orderly own devices net)
    (placed : (net.stations.map (·.here))[place]? = some station.here)
    (here : station.here = own)
    {result : Relay.Coordinator.Result}
    (apart : Relay.Apart own devices result.coordinator.relay)
    (silent : result.out = []) :
    Orderly own devices (net.performRelay place station result) := by
  obtain ⟨_, grows⟩ := grows_performRelay orderly (here ▸ placed) apart (by simp [silent])
  exact grows.orderly

/-- A step of a worker. -/
theorem Orderly.worker
    (orderly : Orderly own devices net)
    (placed : (net.stations.map (·.here))[place]? = some station.here)
    {node : Worker.Node}
    {runner : Runner}
    (fits : Fits own devices station.here (.worker node runner))
    (step : Worker.Node × List Worker.Action) :
    Orderly own devices (net.performWorker place station runner step) :=
  (grows_performWorker orderly placed fits.1 fits.2 step).orderly

/-- Whatever is asked of a node, the network stays orderly. -/
theorem Orderly.call
    (orderly : Orderly own devices net)
    (room : 0 < devices)
    {act : Network -> Nat -> Station -> Network}
    (call : Call own act)
    (found : net.stations[place]? = some station) :
    Orderly own devices (act net place station) := by
  have fits := orderly.stations place station found
  have placed := placed_of_found found
  cases call with
  | start =>
      have heard := grows_modifyStation orderly place ({ · with listening := true })
        (fun _ => rfl) fun other known => orderly.stations place other known
      have there := heard.here ▸ placed
      unfold startAt
      dsimp only
      split
      · rename_i coordinator party
        rw [party] at fits
        refine heard.orderly.relay there fits.1 ?_ ?_
        · unfold Relay.Coordinator.start
          split
          · exact fits.2
          · rw [(Relay.Coordinator.schedule_relay _ _).1]
            exact fits.2
        · unfold Relay.Coordinator.start
          split <;> rfl
      · rename_i node runner party
        exact heard.orderly.worker there (party ▸ fits) _
      · exact orderly
  | stop =>
      unfold stopAt
      split
      · rename_i coordinator party
        rw [party] at fits
        have left : Relay.Apart own devices coordinator.stop.coordinator.relay := by
          unfold Relay.Coordinator.stop
          split
          · simpa using fits.2
          · exact fits.2
        have silent : coordinator.stop.out = [] := by
          unfold Relay.Coordinator.stop
          split <;> rfl
        have freed : ∀ after, Grows own devices net after 0 0 -> Orderly own devices
            ((after.performRelay place station coordinator.stop).observe
              (.settled station.name .stopped)) := fun after grows =>
          (grows_observe (grows.orderly.relay (grows.here ▸ placed) fits.1 left silent) rfl).orderly
        dsimp only
        split
        · exact freed _ (grows_release orderly place station)
        · exact freed _ (.refl orderly)
      · rename_i node runner party
        exact orderly.worker placed (party ▸ fits) _
      · exact orderly
  | close =>
      have closed := (grows_release orderly place station).orderly
      exact (grows_observe closed rfl).orderly
  | whenIdle =>
      unfold whenIdleAt
      split
      · rename_i node runner party
        exact orderly.worker placed (party ▸ fits) _
      · exact orderly
      · exact orderly
  | heartbeat =>
      unfold heartbeatAt
      split
      · rename_i node runner party
        exact orderly.worker placed (party ▸ fits) _
      · exact orderly
      · exact orderly
  | tick =>
      unfold tickAt
      split
      · rename_i coordinator party
        rw [party] at fits
        exact orderly.relay placed fits.1 (apart_take fits.2 (.tick net.now) (by simp))
          (coordinator.out_tick net.now)
      · exact orderly
      · exact orderly
  | snapshot =>
      unfold snapshotAt
      split
      · exact (grows_observe orderly rfl).orderly
      · exact orderly
      · exact orderly
  | request kind =>
      unfold requestAt
      split
      · rename_i controller party
        rw [party] at fits
        exact (grows_performController orderly placed fits _).orderly
      · exact orderly
      · exact orderly
  | hand bytes foreign =>
      obtain ⟨_, grows⟩ := grows_handTo orderly room found bytes fun _ => foreign
      exact grows.orderly

/-- Whatever goes off, the network stays orderly. -/
theorem Orderly.ring
    (orderly : Orderly own devices net)
    (alarm : Alarm) :
    Orderly own devices (net.ring alarm) := by
  cases alarm with
  | tick place timer =>
      simp only [Network.ring]
      split
      · rename_i station found
        have fits := orderly.stations place station found
        split
        · rename_i coordinator party
          rw [party] at fits
          have left : Relay.Apart own devices (coordinator.release timer.handle).relay := fits.2
          exact orderly.relay (placed_of_found found) fits.1
            (apart_take left (.fire net.now) (by simp))
            ((coordinator.release timer.handle).out_tick net.now)
        · exact orderly
        · exact orderly
      · exact orderly
  | timer place =>
      simp only [Network.ring]
      split
      · rename_i station found
        have fits := orderly.stations place station found
        split
        · rename_i node runner party
          exact orderly.worker (placed_of_found found) (party ▸ fits) _
        · exact orderly
        · exact orderly
      · exact orderly
  | command ended =>
      have fewer : Orderly own devices { net with running := net.running.filter fun other =>
          !(other.station == ended.station && other.job == ended.job) } :=
        ⟨orderly.stations, orderly.queue, fun other member =>
          orderly.running other (List.mem_filter.mp member).1, orderly.sent⟩
      obtain ⟨_, _, grows, _⟩ := grows_finishJob fewer ended
      exact grows.orderly

end Calls

/-- Every network that can be reached is orderly. -/
theorem Reachable.orderly
    (reached : Reachable own config net)
    (room : 0 < config.maxDevices) :
    Orderly own config.maxDevices net := by
  induction reached with
  | relay now verbose name =>
      have empty : Orderly own config.maxDevices { now, verbose } :=
        ⟨by simp, by simp, by simp, by simp [sent]⟩
      exact empty.add ⟨rfl, apart_new own config⟩
  | worker reached far atOnce name id relay settings ih =>
      unfold addWorker
      split
      · exact ih.add ⟨far, atOnce⟩
      · exact (grows_observe ih rfl).orderly
  | controller reached far name controller ih => exact ih.add far
  | call reached call found ih => exact ih.call room call found
  | ring reached alarm ih => exact ih.ring alarm
  | work reached works ih => exact (works.orderly ih room).1
  | post reached datagram foreign ih =>
      exact (grows_post ih fun same => absurd same foreign).orderly
  | world reached stations queue running trace ih =>
      refine ⟨stations ▸ ih.stations, queue ▸ ih.queue, running ▸ ih.running, ?_⟩
      rcases trace with same | cleared
      · simpa only [sent, same] using ih.sent
      · simp [sent, cleared]

/-! ## Cascades -/

/-- Some pieces of work, done in any order. -/
inductive Working : Nat -> Network -> Network -> Prop
  /-- None. -/
  | none (net : Network) : Working 0 net net
  /-- One, and others after it. -/
  | more {pieces : Nat} {first second last : Network} (works : Works first second)
      (others : Working pieces second last) : Working (pieces + 1) first last

/-- Work pays for what it sends, and there is an end to it. -/
theorem Working.orderly
    {devices pieces : Nat}
    {last : Network}
    (working : Working pieces net last)
    (orderly : Orderly own devices net)
    (room : 0 < devices) :
    Orderly own devices last ∧
    (∃ more, last.sent = net.sent ++ more ∧
      last.debt own devices + more.length ≤ net.debt own devices) ∧
    pieces + last.rank own devices ≤ net.rank own devices := by
  induction working with
  | none net => exact ⟨orderly, ⟨[], by simp, by simp⟩, by omega⟩
  | more works others ih =>
      obtain ⟨next, ⟨early, sent, paid⟩, less⟩ := works.orderly orderly room
      obtain ⟨after, ⟨late, sent', paid'⟩, less'⟩ := ih next
      refine ⟨after, ⟨early ++ late, ?_, ?_⟩, by omega⟩
      · rw [sent', sent, List.append_assoc]
      · rw [List.length_append]
        omega

/-- What the network does by itself is work, and ends when nothing is left or the limit is
reached. -/
theorem working_settleWithin (limit : Nat) (net : Network) :
    ∃ pieces, Working pieces net (settleWithin limit net) ∧
      (pieces = limit ∨ (settleWithin limit net).workOnce? = Option.none) := by
  induction limit generalizing net with
  | zero => exact ⟨0, .none net, .inl rfl⟩
  | succ limit ih =>
      unfold settleWithin
      split
      · rename_i done
        exact ⟨0, .none net, .inr done⟩
      · rename_i after next
        obtain ⟨pieces, working, ended⟩ := ih after
        refine ⟨pieces + 1, .more (works_workOnce? next) working, ?_⟩
        rcases ended with rfl | done
        · exact .inl rfl
        · exact .inr done

/-- An orderly network without work has nothing on its way, and no command runs. -/
theorem Orderly.done
    {devices : Nat}
    (orderly : Orderly own devices net)
    (done : net.workOnce? = none) :
    net.queue = [] ∧ net.running = [] := by
  unfold workOnce? at done
  split at done
  · cases done
  · rename_i nobody
    have ran : net.running = [] := by
      cases running : net.running with
      | nil => rfl
      | cons ended rest =>
          have due := orderly.running ended (by simp [running])
          simp [running, extract?, due] at nobody
    split at done
    · rename_i empty
      exact ⟨empty, ran⟩
    · cases done

/-- The network in which a datagram is all that is to be done. -/
def alone (net : Network) (datagram : Datagram) : Network :=
  { net with queue := [datagram], running := [] }

/--
From every state that can be reached, a datagram that does not come from the
relay's own endpoint leads to few others, in whatever order the work is done: at
most three for each device that there is room for, none of which goes from the
relay to itself. The work has an end, at which nothing is on its way and no
command runs.
-/
theorem cascade_ends
    (reached : Reachable own config net)
    (room : 0 < config.maxDevices)
    (datagram : Datagram)
    (foreign : datagram.source ≠ own) :
    (∀ pieces last, Working pieces (net.alone datagram) last ->
      pieces ≤ 6 * config.maxDevices + 1 ∧
      ∃ consequences, last.sent = net.sent ++ consequences ∧
        consequences.length ≤ 3 * config.maxDevices ∧
        ∀ sent ∈ last.sent, sent.source = own -> sent.target ≠ own) ∧
    ∃ pieces, Working pieces (net.alone datagram)
        (settleWithin (6 * config.maxDevices + 2) (net.alone datagram)) ∧
      (settleWithin (6 * config.maxDevices + 2) (net.alone datagram)).queue = [] ∧
      (settleWithin (6 * config.maxDevices + 2) (net.alone datagram)).running = [] := by
  have orderly : Orderly own config.maxDevices (net.alone datagram) := by
    refine ⟨(reached.orderly room).stations, fun other member same => ?_, by simp [alone],
      (reached.orderly room).sent⟩
    exact absurd (List.mem_singleton.mp member ▸ same) foreign
  have debt : (net.alone datagram).debt own config.maxDevices ≤ 3 * config.maxDevices := by
    simp only [Network.debt, alone, List.map_singleton, List.sum_singleton, List.length_nil]
    unfold charge
    split <;> split <;> omega
  have rank : (net.alone datagram).rank own config.maxDevices ≤ 6 * config.maxDevices + 1 := by
    have : (net.alone datagram).queue.length = 1 := rfl
    unfold Network.rank
    omega
  have bounded {pieces : Nat} {last : Network}
      (working : Working pieces (net.alone datagram) last) :
      pieces ≤ 6 * config.maxDevices + 1 := by
    have := (working.orderly orderly room).2.2
    omega
  refine ⟨fun pieces last working => ?_, ?_⟩
  · obtain ⟨after, ⟨more, sent, paid⟩, _⟩ := working.orderly orderly room
    exact ⟨bounded working, more, sent, by omega, after.sent⟩
  · obtain ⟨pieces, working, ended⟩ :=
      working_settleWithin (6 * config.maxDevices + 2) (net.alone datagram)
    have few := bounded working
    have done := ended.resolve_left (by omega)
    exact ⟨pieces, working, (working.orderly orderly room).1.done done⟩

/-! ### The bound is reached -/

/-- Where the relay is. -/
def relayHere : Endpoint := ⟨"10.0.0.1", 8080⟩

/-- Where the controller is. -/
def controllerHere : Endpoint := ⟨"10.0.0.9", 5000⟩

/-- The configuration of a relay with room for one device. -/
def roomForOne : Config := { maxDevices := 1 }

/-- A relay with room for one device, which a worker has, and a controller. -/
def trio : Network :=
  ((((({ now := 0 } : Network).addRelay "relay" relayHere roomForOne).start "relay").addWorker
    "worker" ⟨"10.0.0.2", 4000⟩ "cam-1" relayHere {} (.scripted [])).start "worker").addController
      "controller" controllerHere { relay := relayHere, maxMessageBytes := 1024 }

/-- The broadcast of the controller. -/
def captureAsked : Datagram :=
  ⟨controllerHere, relayHere, encode (.request .capture) 1024⟩

/-- The bound is reached: the relay asks the device, which answers, and forwards the answer. -/
theorem cascade_ends_trio :
    Reachable relayHere roomForOne trio ∧ 0 < roomForOne.maxDevices ∧
    captureAsked.source ≠ relayHere ∧
    (∀ pieces last, Working pieces (trio.alone captureAsked) last ->
      pieces ≤ 7 ∧ last.sent.length ≤ trio.sent.length + 3) ∧
    (settleWithin 8 (trio.alone captureAsked)).sent.length = trio.sent.length + 3 := by
  have reached : Reachable relayHere roomForOne trio :=
    (((((Reachable.relay 0 true "relay").withNamed .start "relay").worker
      (by decide) (by simp [AtOnce]) "worker" "cam-1" relayHere {}).withNamed .start
        "worker").controller (by decide) "controller" _)
  have ends := cascade_ends reached (by decide) captureAsked (by decide)
  refine ⟨reached, by decide, by decide, fun pieces last working => ?_, by decide +kernel⟩
  obtain ⟨few, more, sent, length, _⟩ := ends.1 pieces last working
  exact ⟨few, by rw [sent, List.length_append]; exact Nat.add_le_add_left length _⟩

end Network
end CameraFleet
