import CameraFleet.Controller
import CameraFleet.Relay.Coordinator
import CameraFleet.Worker.Node

/-!
# A network in memory

Relays, workers and controllers on a network with a clock of its own. A
datagram joins one queue and reaches the newest node at its destination. Work
that needs neither time nor the network is done first, then the oldest datagram
is delivered, until nothing is left; only then does the clock move, from one
timer to the next.

`Network.workOnce?` is the single step of this; `Network.settle` repeats it and
`Network.advance` moves the clock. Everything that can be observed is kept in
the trace, in order.
-/

namespace CameraFleet

open Wire

/-- How the commands of a worker end. -/
structure Answer where
  /-- How long the command takes, in milliseconds; none if it ends at once. -/
  delay : Option Nat := none
  /-- What it leaves behind, or why it could not be run. -/
  result : Except String Worker.RunResult

/-- Who runs the commands of a worker. -/
inductive Runner
  /-- The answers are given in advance; after the last one, commands succeed silently. -/
  | scripted (answers : List Answer)
  /-- The answer depends on the command. -/
  | live (run : Command -> Worker.RunResult)

namespace Runner

/-- The answer to a command, and the runner after it. -/
def answer (runner : Runner) (command : Command) : Answer × Runner :=
  match runner with
  | .scripted [] => ({ result := .ok { exitCode := some 0, output := "" } }, .scripted [])
  | .scripted (first :: rest) => (first, .scripted rest)
  | .live run => ({ result := .ok (run command) }, .live run)

end Runner

namespace Network

/-- A node of the network. -/
inductive Party
  | relay (coordinator : Relay.Coordinator)
  | worker (node : Worker.Node) (runner : Runner)
  | controller (controller : Controller)

/-- A node with its socket. -/
structure Station where
  /-- The name of the node. -/
  name : String
  /-- Where the socket is bound. -/
  here : Endpoint
  /-- Whether the node receives datagrams. -/
  listening : Bool := false
  /-- Whether the socket has been released. -/
  closed : Bool := false
  /-- The node. -/
  party : Party

/-- A datagram on its way. -/
structure Datagram where
  /-- Where it comes from. -/
  source : Endpoint
  /-- Where it goes. -/
  target : Endpoint
  /-- What it holds. -/
  bytes : Bytes
  deriving Repr, DecidableEq

/-- A rule that loses datagrams: all that match every given part. -/
structure Loss where
  /-- What the datagram starts with. -/
  start : Option Bytes := none
  /-- Where it comes from. -/
  source : Option Endpoint := none
  /-- Where it goes. -/
  target : Option Endpoint := none
  deriving Repr, DecidableEq

/-- Whether a rule loses a datagram. -/
def Loss.applies (loss : Loss) (datagram : Datagram) : Bool :=
  loss.start.all (·.isPrefixOf datagram.bytes) &&
    loss.source.all (· == datagram.source) &&
    loss.target.all (· == datagram.target)

/-- The end of a call that somebody made to a node. -/
inductive Settled
  | started (result : Except String Worker.Registration)
  | stopped
  | closed
  | idle
  | heartbeat
  | request (sent : Bool)

/-- What can be observed, apart from the time. -/
inductive Event
  /-- A datagram enters the network, and is perhaps lost. -/
  | send (datagram : Datagram) (lost : Bool)
  /-- A node tells its log. -/
  | log (name : String) (line : Log.Line)
  /-- A worker runs a command. -/
  | run (name : String) (command : Command)
  /-- A controller shows something. -/
  | display (name : String) (shown : Display)
  /-- A call has ended. -/
  | settled (name : String) (result : Settled)
  /-- A node releases its socket. -/
  | released (name : String)
  /-- The state of a relay was looked at. -/
  | snapshot (records : List Device.Record) (activeCount : Nat) (session : Option Session)
  /-- Something was asked that cannot be done. -/
  | failed (message : String)

/-- A command that runs: its worker, its job, and when it ends. -/
structure Running where
  /-- The worker's place among the stations. -/
  station : Nat
  /-- The job of the worker. -/
  job : Nat
  /-- When the command ends; none if at once. -/
  due : Option Int
  /-- What it leaves behind. -/
  result : Except String Worker.RunResult

end Network

/-- A network with its nodes and its clock. -/
structure Network where
  /-- The clock. -/
  now : Int
  /-- Whether log lines of level `debug` are observed. -/
  verbose : Bool := true
  /-- The nodes, oldest first. -/
  stations : List Network.Station := []
  /-- The datagrams on their way, oldest first. -/
  queue : List Network.Datagram := []
  /-- The rules that lose datagrams. -/
  losses : List Network.Loss := []
  /-- Endpoints from which nothing gets out, newest first, with the reason. -/
  blocked : List (Endpoint × String) := []
  /-- The commands that run. -/
  running : List Network.Running := []
  /-- What has been observed, with its time. -/
  trace : Array (Int × Network.Event) := #[]

namespace Network

/-- Observe something now. -/
def observe (net : Network) (event : Event) : Network :=
  { net with trace := net.trace.push (net.now, event) }

/-- Observe a log line, if its level is observed. -/
def observeLine
    (net : Network)
    (name : String)
    (line : Log.Line) : Network :=
  if line.level = .debug && !net.verbose then net else net.observe (.log name line)

/-- Change the station at a place. -/
def modifyStation
    (net : Network)
    (place : Nat)
    (change : Station -> Station) : Network :=
  { net with stations := net.stations.modify place change }

/-- Replace the node at a place. -/
def setParty
    (net : Network)
    (place : Nat)
    (party : Party) : Network :=
  net.modifyStation place ({ · with party })

/-- The newest station that meets a condition, with its place. -/
def newest? (net : Network) (condition : Station -> Bool) : Option (Nat × Station) :=
  (net.stations.zipIdx.reverse.find? fun (station, _) => condition station).map
    fun (station, place) => (place, station)

/-- The newest node of a name. -/
def named? (net : Network) (name : String) : Option (Nat × Station) :=
  net.newest? (·.name == name)

/-- The newest node at an endpoint. -/
def bound? (net : Network) (endpoint : Endpoint) : Option (Nat × Station) :=
  net.newest? (·.here == endpoint)

/-- Why nothing gets out of a station, if so. -/
def link (net : Network) (station : Station) : Worker.Link :=
  if station.closed then some "socket closed" else net.blocked.lookup station.here

/-- Put a datagram on its way, unless a rule loses it. -/
def post (net : Network) (datagram : Datagram) : Network :=
  let lost := net.losses.any (·.applies datagram)
  let net := net.observe (.send datagram lost)
  if lost then net else { net with queue := net.queue ++ [datagram] }

/-- Release the socket of a station; what has been released stays so. -/
def release
    (net : Network)
    (place : Nat)
    (station : Station) : Network :=
  if station.closed then net
  else (net.modifyStation place ({ · with closed := true })).observe (.released station.name)

/-- Carry out one action of a relay. -/
def performRelayAction
    (station : Station)
    (net : Network) : Relay.Coordinator.Action -> Network
  | .report event => net.observeLine station.name event.line
  | .send target bytes => net.post ⟨station.here, target, bytes⟩

/-- Carry out a step of a relay. -/
def performRelay
    (net : Network)
    (place : Nat)
    (station : Station)
    (result : Relay.Coordinator.Result) : Network :=
  let (coordinator, actions) := result.perform fun _ => net.link station
  let net := net.setParty place (.relay coordinator)
  actions.foldl (performRelayAction station) net

/-- Run the command of a job. -/
def runCommand
    (net : Network)
    (place : Nat)
    (station : Station)
    (job : Nat)
    (command : Command) : Network :=
  match station.party with
  | .worker node runner =>
      let (answer, runner) := runner.answer command
      let net := (net.observe (.run station.name command)).setParty place (.worker node runner)
      let due := answer.delay.map fun delay => net.now + Timer.delay delay
      { net with running := net.running ++ [⟨place, job, due, answer.result⟩] }
  | _ => net

/-- Carry out one action of a worker. -/
def performWorkerAction
    (place : Nat)
    (station : Station)
    (node : Worker.Node)
    (net : Network) : Worker.Action -> Network
  | .report event => net.observeLine station.name event.line
  | .send target message => net.post ⟨station.here, target, node.datagram message⟩
  | .run job command => net.runCommand place station job command
  | .close => net.release place station
  | .started result => net.observe (.settled station.name (.started result))
  | .stopped => net.observe (.settled station.name .stopped)
  | .heartbeatDone => net.observe (.settled station.name .heartbeat)
  | .idle => net.observe (.settled station.name .idle)

/-- Carry out a step of a worker. -/
def performWorker
    (net : Network)
    (place : Nat)
    (station : Station)
    (runner : Runner)
    (step : Worker.Node × List Worker.Action) : Network :=
  let party := Party.worker step.1 runner
  let net := net.setParty place party
  step.2.foldl (performWorkerAction place { station with party } step.1) net

/-- Carry out one action of a controller. -/
def performControllerAction
    (station : Station)
    (controller : Controller)
    (net : Network) : Controller.Action -> Network
  | .report event => net.observeLine station.name event.line
  | .send target message => net.post ⟨station.here, target, controller.datagram message⟩
  | .display shown => net.observe (.display station.name shown)
  | .requested sent => net.observe (.settled station.name (.request sent))

/-- Carry out a step of a controller. -/
def performController
    (net : Network)
    (place : Nat)
    (station : Station)
    (step : Controller × List Controller.Action) : Network :=
  let net := net.setParty place (.controller step.1)
  step.2.foldl (performControllerAction station step.1) net

/-- Hand a datagram to the node at a place, whether it listens or not. -/
def handTo
    (net : Network)
    (place : Nat)
    (station : Station)
    (bytes : Bytes)
    (sender : Endpoint) : Network :=
  match station.party with
  | .relay coordinator =>
      net.performRelay place station (coordinator.receive bytes sender net.now)
  | .worker node runner =>
      net.performWorker place station runner (node.receive bytes sender net.now (net.link station))
  | .controller controller =>
      net.performController place station (controller.receive bytes sender net.now)

/-- Deliver a datagram to the newest node at its destination, if that one listens. -/
def deliver (net : Network) (datagram : Datagram) : Network :=
  match net.bound? datagram.target with
  | some (place, station) =>
      if station.listening && !station.closed then
        net.handTo place station datagram.bytes datagram.source
      else net
  | none => net

/-- Finish a job whose command has ended. -/
def finishJob (net : Network) (ended : Running) : Network :=
  match net.stations[ended.station]? with
  | some station =>
      match station.party with
      | .worker node runner =>
          net.performWorker ended.station station runner
            (node.finish ended.job ended.result (net.link station))
      | _ => net
  | none => net

/-- Take out the first element that meets a condition. -/
def extract? (condition : α -> Bool) : List α -> Option (α × List α)
  | [] => none
  | x :: rest =>
      if condition x then some (x, rest)
      else (extract? condition rest).map fun (found, others) => (found, x :: others)

/--
Do one piece of work that needs no time: finish a job whose command ended at
once, or else deliver the oldest datagram.
-/
def workOnce? (net : Network) : Option Network :=
  match extract? (·.due.isNone) net.running with
  | some (ended, others) => some ({ net with running := others }.finishJob ended)
  | none =>
      match net.queue with
      | [] => none
      | datagram :: rest => some ({ net with queue := rest }.deliver datagram)

/-- Do all work that needs no time, up to a number of pieces. -/
def settleWithin : Nat -> Network -> Network
  | 0, net => net
  | pieces + 1, net =>
      match net.workOnce? with
      | none => net
      | some net => settleWithin pieces net

/-- The most pieces of work that a datagram leads to at a node: a relay may ask every device. -/
def Party.branching : Party -> Nat
  | .relay coordinator => 8 * (coordinator.config.maxDevices + 1)
  | .worker _ _ | .controller _ => 1

/--
Pieces of work enough for all that is queued. What a datagram leads to is
multiplied at every relay on the way.
-/
def workLimit (net : Network) : Nat :=
  (net.queue.length + net.running.length + 1) *
    (net.stations.map (·.party.branching)).foldl (· * ·) 8

/-- Do all work that needs no time. -/
def settle (net : Network) : Network :=
  settleWithin net.workLimit net

/-- Something that happens at a time. -/
inductive Alarm
  /-- A timer of the relay at a place. -/
  | tick (place : Nat) (timer : Relay.Timer)
  /-- The timer of the worker at a place. -/
  | timer (place : Nat)
  /-- The end of a command. -/
  | command (ended : Running)

/-- The timers of the node at a place, each with its time. -/
def Party.alarms (place : Nat) : Party -> List (Int × Alarm)
  | .relay coordinator => coordinator.pending.map fun timer => (timer.due, .tick place timer)
  | .worker node _ => (node.due?.map fun due => (due, .timer place)).toList
  | .controller _ => []

/-- Everything that will happen, with its time. -/
def alarms (net : Network) : List (Int × Alarm) :=
  net.stations.zipIdx.flatMap (fun (station, place) => station.party.alarms place) ++
    net.running.filterMap fun ended => ended.due.map fun due => (due, .command ended)

/-- The earliest of some alarms; of two at the same time, the first. -/
def earliest? (alarms : List (Int × Alarm)) : Option (Int × Alarm) :=
  alarms.foldl (fun best alarm =>
    match best with
    | none => some alarm
    | some other => if alarm.1 < other.1 then some alarm else best) none

/-- What happens when an alarm goes off. -/
def ring (net : Network) : Alarm -> Network
  | .tick place timer =>
      match net.stations[place]? with
      | some station =>
          match station.party with
          | .relay coordinator =>
              net.performRelay place station (coordinator.goOff timer net.now)
          | .worker .. | .controller _ => net
      | none => net
  | .timer place =>
      match net.stations[place]? with
      | some station =>
          match station.party with
          | .worker node runner =>
              net.performWorker place station runner (node.fire net.now (net.link station))
          | .relay _ | .controller _ => net
      | none => net
  | .command ended =>
      let others := net.running.filter fun other =>
        !(other.station == ended.station && other.job == ended.job)
      { net with running := others }.finishJob ended

/-- Let alarms go off up to a time, up to a number of them; the clock ends at that time. -/
def advanceWithin : Nat -> Int -> Network -> Network
  | 0, target, net => { net with now := target }
  | steps + 1, target, net =>
      match earliest? net.alarms with
      | some (due, alarm) =>
          if due ≤ target then
            let net := { net with now := max net.now due }
            advanceWithin steps target (net.ring alarm).settle
          else { net with now := target }
      | none => { net with now := target }

/-- Move the clock by some milliseconds. -/
def advance (net : Network) (ms : Int) : Network :=
  let steps := (ms.toNat + 1) * (net.stations.length + net.running.length + 1)
  advanceWithin steps (net.now + ms) net

/-! ## What is asked of a network -/

/-- Add a node. -/
def add (net : Network) (station : Station) : Network :=
  { net with stations := net.stations ++ [station] }

/-- Do something with the newest node of a name, then settle. -/
def withNamed
    (net : Network)
    (name : String)
    (act : Network -> Nat -> Station -> Network) : Network :=
  match net.named? name with
  | some (place, station) => (act net place station).settle
  | none => net

/-! ### Calls -/

/-- Start a relay or a worker. -/
def startAt
    (net : Network)
    (place : Nat)
    (station : Station) : Network :=
  let heard := net.modifyStation place ({ · with listening := true })
  let station := { station with listening := true }
  match station.party with
  | .relay coordinator => heard.performRelay place station (coordinator.start net.now)
  | .worker node runner =>
      heard.performWorker place station runner (node.start net.now (net.link station))
  | .controller _ => net

/-- Stop a relay or a worker. -/
def stopAt
    (net : Network)
    (place : Nat)
    (station : Station) : Network :=
  match station.party with
  | .relay coordinator =>
      let net := if coordinator.running then net.release place station else net
      (net.performRelay place station coordinator.stop).observe (.settled station.name .stopped)
  | .worker node runner =>
      net.performWorker place station runner (node.stop net.now (net.link station))
  | .controller _ => net

/-- Close a controller. -/
def closeAt
    (net : Network)
    (place : Nat)
    (station : Station) : Network :=
  (net.release place station).observe (.settled station.name .closed)

/-- Wait for the jobs of a worker. -/
def whenIdleAt
    (net : Network)
    (place : Nat)
    (station : Station) : Network :=
  match station.party with
  | .worker node runner => net.performWorker place station runner node.whenIdle
  | .relay _ | .controller _ => net

/-- Let a worker send a heartbeat. -/
def heartbeatAt
    (net : Network)
    (place : Nat)
    (station : Station) : Network :=
  match station.party with
  | .worker node runner =>
      net.performWorker place station runner (node.heartbeat net.now (net.link station))
  | .relay _ | .controller _ => net

/-- Let a relay tick. -/
def tickAt
    (net : Network)
    (place : Nat)
    (station : Station) : Network :=
  match station.party with
  | .relay coordinator => net.performRelay place station (coordinator.tick net.now)
  | .worker .. | .controller _ => net

/-- Look at the state of a relay. -/
def snapshotAt
    (net : Network)
    (_place : Nat)
    (station : Station) : Network :=
  match station.party with
  | .relay coordinator =>
      let registry := coordinator.relay.registry
      net.observe
        (.snapshot registry.records registry.activeCount coordinator.relay.tally.current)
  | .worker .. | .controller _ => net

/-- Let a controller send a broadcast. -/
def requestAt
    (kind : Kind)
    (net : Network)
    (place : Nat)
    (station : Station) : Network :=
  match station.party with
  | .controller controller =>
      net.performController place station (controller.request kind net.now (net.link station))
  | .relay _ | .worker .. => net

/-- Start the node of a name. -/
def start (net : Network) (name : String) : Network :=
  net.withNamed name startAt

/-- Stop the node of a name. -/
def stop (net : Network) (name : String) : Network :=
  net.withNamed name stopAt

/-- Close the controller of a name. -/
def close (net : Network) (name : String) : Network :=
  net.withNamed name closeAt

/-- Wait for the jobs of the worker of a name. -/
def whenIdle (net : Network) (name : String) : Network :=
  net.withNamed name whenIdleAt

/-- Let the worker of a name send a heartbeat. -/
def heartbeat (net : Network) (name : String) : Network :=
  net.withNamed name heartbeatAt

/-- Let the relay of a name tick. -/
def tick (net : Network) (name : String) : Network :=
  net.withNamed name tickAt

/-- Look at the state of the relay of a name. -/
def snapshot (net : Network) (name : String) : Network :=
  net.withNamed name snapshotAt

/-- Let the controller of a name send a broadcast. -/
def request
    (net : Network)
    (name : String)
    (kind : Kind) : Network :=
  net.withNamed name (requestAt kind)

/-! ### Datagrams from outside -/

/-- A datagram enters the network from outside. -/
def inject (net : Network) (datagram : Datagram) : Network :=
  (net.post datagram).settle

/-- Hand a datagram to a node past the network. -/
def handDirectly
    (net : Network)
    (name : String)
    (bytes : Bytes)
    (sender : Endpoint) : Network :=
  net.withNamed name fun net place station => net.handTo place station bytes sender

/-! ### Nodes and faults -/

/-- Add a relay. -/
def addRelay
    (net : Network)
    (name : String)
    (here : Endpoint)
    (config : Config) : Network :=
  net.add { name, here, party := .relay (.new config here) }

/-- Add a worker; an id that cannot name a device is refused. -/
def addWorker
    (net : Network)
    (name : String)
    (here : Endpoint)
    (id : String)
    (relay : Endpoint)
    (config : Config)
    (runner : Runner) : Network :=
  if Device.ValidId id then
    net.add { name, here, party := .worker (.new id relay config) runner }
  else net.observe (.failed (Worker.Node.invalidIdMessage id))

/-- Add a controller, which listens from the start. -/
def addController
    (net : Network)
    (name : String)
    (here : Endpoint)
    (controller : Controller) : Network :=
  net.add { name, here, listening := true, party := .controller controller }

/-- Lose datagrams from now on. -/
def lose (net : Network) (loss : Loss) : Network :=
  { net with losses := net.losses ++ [loss] }

/-- Lose nothing any more. -/
def heal (net : Network) : Network :=
  { net with losses := [] }

/-- Let nothing out of an endpoint from now on. -/
def block
    (net : Network)
    (endpoint : Endpoint)
    (reason : String) : Network :=
  { net with blocked := (endpoint, reason) :: net.blocked }

/-- Let datagrams out of an endpoint again. -/
def unblock (net : Network) (endpoint : Endpoint) : Network :=
  { net with blocked := net.blocked.filter (·.1 != endpoint) }

/-- Forget what has been observed. -/
def clearTrace (net : Network) : Network :=
  { net with trace := #[] }

end Network
end CameraFleet
