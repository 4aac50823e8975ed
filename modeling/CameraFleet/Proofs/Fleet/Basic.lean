import CameraFleet.Controller
import CameraFleet.Proofs.Relay.Ledger
import CameraFleet.Proofs.Worker.Beating
import Mathlib.Logic.Relation

/-!
# A fleet

A relay, a controller and any number of workers on a network that loses nothing.
A step is one thing that happens: a datagram is delivered, a timer goes off, a
worker is asked for something or a command of it ends, or time goes on. What the
relay tells its log, what reaches it and what the controller shows is remembered.
-/

namespace CameraFleet

open Device Relay Wire Worker

/-- The devices that are active and have not been silent for too long. -/
def Device.Registry.live (registry : Registry) (time : Int) : List Record :=
  registry.active.filter fun record => time - record.lastHeartbeat ≤ registry.livenessTimeout

/-- A datagram on its way, with the message that it was made of. -/
structure Parcel where
  /-- Where it comes from. -/
  source : Endpoint
  /-- Where it goes. -/
  target : Endpoint
  /-- The message. -/
  message : Message
  /-- The size of the buffers of the sender. -/
  room : Int
  deriving DecidableEq

/-- What a parcel looks like on its way. -/
def Parcel.bytes (parcel : Parcel) : Bytes :=
  encode parcel.message parcel.room

/-- A worker at its endpoint. -/
structure Seat where
  /-- Where it is. -/
  here : Endpoint
  /-- The worker. -/
  node : Node

/-- A worker of a relay that has been started and not stopped. -/
structure Seat.Works (own : Endpoint) (seat : Seat) : Prop where
  home : seat.node.relay = own
  goes : seat.node.stopped = false
  begun : seat.node.started = true
  room : (64 : Int) ≤ seat.node.config.maxMessageBytes

/-- A relay, a controller and workers. -/
structure Fleet where
  /-- The clock. -/
  now : Int
  /-- Where the relay is. -/
  own : Endpoint
  /-- Where the controller is. -/
  desk : Endpoint
  /-- The relay. -/
  coordinator : Coordinator
  /-- The controller. -/
  controller : Controller
  /-- The workers. -/
  seats : List Seat
  /-- The datagrams on their way. -/
  flying : List Parcel := []
  /-- What the relay has told its log, with the times. -/
  log : List (Int × Relay.Event) := []
  /-- The messages that have reached the relay, with the times. -/
  reached : List (Int × Message) := []
  /-- What the controller has shown. -/
  shown : List Display := []

namespace Fleet

/-- The relay does something, and all that it sends gets out. -/
def relayDoes (fleet : Fleet) (result : Coordinator.Result) : Fleet :=
  { fleet with
    coordinator := result.coordinator
    flying := fleet.flying ++ result.out.map fun out =>
      ⟨fleet.own, out.target, out.message, result.coordinator.config.maxMessageBytes⟩
    log := fleet.log ++ result.events.map (fleet.now, ·) }

/-- A worker does something, and all that it sends gets out. -/
def seatDoes
    (fleet : Fleet)
    (early late : List Seat)
    (here : Endpoint)
    (step : Node × List Worker.Action) : Fleet :=
  { fleet with
    seats := early ++ ⟨here, step.1⟩ :: late
    flying := fleet.flying ++ (Node.sentOf step.2).map fun sent =>
      ⟨here, sent.1, sent.2, step.1.config.maxMessageBytes⟩ }

/-- What an action of the controller sends. -/
def parcel? (desk : Endpoint) (controller : Controller) : Controller.Action -> Option Parcel
  | .send target message => some ⟨desk, target, message, controller.maxMessageBytes⟩
  | _ => none

/-- What an action of the controller shows. -/
def display? : Controller.Action -> Option Display
  | .display shown => some shown
  | _ => none

/-- The controller does something, and all that it sends gets out. -/
def deskDoes (fleet : Fleet) (step : Controller × List Controller.Action) : Fleet :=
  { fleet with
    controller := step.1
    flying := fleet.flying ++ step.2.filterMap (parcel? fleet.desk step.1)
    shown := fleet.shown ++ step.2.filterMap display? }

theorem desk_deskDoes (fleet : Fleet) (step : Controller × List Controller.Action) :
    (fleet.deskDoes step).desk = fleet.desk :=
  rfl

/-- The controller asks all workers. -/
def asks (fleet : Fleet) (kind : Kind) : Fleet :=
  fleet.deskDoes (fleet.controller.request kind fleet.now none)

/-- A parcel is taken off its way. -/
def without (fleet : Fleet) (rest : List Parcel) : Fleet :=
  { fleet with flying := rest }

/-- What the relay reads is remembered. -/
def noting (fleet : Fleet) (bytes : Bytes) : Fleet :=
  { fleet with
    reached := fleet.reached ++
      ((receive bytes fleet.coordinator.config.maxMessageBytes).toOption.map
        (fleet.now, ·)).toList }

/--
One thing that happens. Datagrams are delivered in any order, and timers go off
when they like, once they are due. While a datagram of the controller is on its
way, no device becomes stale; all others may take their time.
-/
inductive Step (fleet : Fleet) : Fleet -> Prop
  /-- A timer of the relay goes off. -/
  | relayTimer {timer : Relay.Timer} (held : timer ∈ fleet.coordinator.pending)
      (due : timer.due ≤ fleet.now) :
      Step fleet (fleet.relayDoes (fleet.coordinator.goOff timer fleet.now))
  /-- The relay ticks on demand. -/
  | relayTicks : Step fleet (fleet.relayDoes (fleet.coordinator.tick fleet.now))
  /-- A worker is asked for something, or a command of it ends. -/
  | workerCalled {early late : List Seat} {seat : Seat} {input : Node.Input}
      (sits : fleet.seats = early ++ seat :: late) (called : Node.Called fleet.now input) :
      Step fleet (fleet.seatDoes early late seat.here (seat.node.act input))
  /-- The timer of a worker goes off. -/
  | workerTimer {early late : List Seat} {seat : Seat} {due : Int}
      (sits : fleet.seats = early ++ seat :: late) (held : seat.node.due? = some due)
      (past : due ≤ fleet.now) :
      Step fleet (fleet.seatDoes early late seat.here (seat.node.act (.fire fleet.now none)))
  /-- A datagram reaches the relay. -/
  | toRelay {before after : List Parcel} {parcel : Parcel}
      (flies : fleet.flying = before ++ parcel :: after) (target : parcel.target = fleet.own) :
      Step fleet (((fleet.without (before ++ after)).noting parcel.bytes).relayDoes
        (fleet.coordinator.receive parcel.bytes parcel.source fleet.now))
  /-- A datagram reaches a worker. -/
  | toWorker {before after : List Parcel} {parcel : Parcel} {early late : List Seat} {seat : Seat}
      (flies : fleet.flying = before ++ parcel :: after)
      (sits : fleet.seats = early ++ seat :: late) (target : parcel.target = seat.here) :
      Step fleet ((fleet.without (before ++ after)).seatDoes early late seat.here
        (seat.node.act (.receive parcel.bytes parcel.source fleet.now none)))
  /-- A datagram reaches the controller. -/
  | toDesk {before after : List Parcel} {parcel : Parcel}
      (flies : fleet.flying = before ++ parcel :: after) (target : parcel.target = fleet.desk) :
      Step fleet ((fleet.without (before ++ after)).deskDoes
        (fleet.controller.receive parcel.bytes parcel.source fleet.now))
  /-- Time goes on. -/
  | wait {later : Int} (order : fleet.now ≤ later)
      (prompt : ∀ parcel ∈ fleet.flying, parcel.source = fleet.desk ->
        fleet.coordinator.relay.registry.live later =
          fleet.coordinator.relay.registry.live fleet.now) :
      Step fleet { fleet with now := later }

/-- What happens, one thing after the other. -/
abbrev Runs : Fleet -> Fleet -> Prop :=
  Relation.ReflTransGen Step

/-- The controller stays where it is. -/
theorem Step.desk
    {fleet next : Fleet}
    (step : Step fleet next) :
    next.desk = fleet.desk := by
  cases step with
  | toDesk => exact desk_deskDoes _ _
  | _ => exact rfl

theorem desk_of_runs
    {fleet later : Fleet}
    (runs : Runs fleet later) :
    later.desk = fleet.desk := by
  induction runs with
  | refl => rfl
  | tail _ step ih => exact step.desk.trans ih

/-- Where the workers are, with their ids. -/
def roster (fleet : Fleet) : List (Endpoint × String) :=
  fleet.seats.map fun seat => (seat.here, seat.node.id)

/-- A heartbeat of a worker, on its way to the relay. -/
def Beat (own : Endpoint) (places : List (Endpoint × String)) (parcel : Parcel) : Prop :=
  ∃ here id room, (here, id) ∈ places ∧ 64 ≤ room ∧ parcel = ⟨here, own, .heartbeat id, room⟩

/--
A fleet at rest. The relay runs and collects for nobody; the devices that are
active and have not been silent for too long are the workers, each at its own
endpoint; nobody works, and nothing but heartbeats is on its way.
-/
structure Ready (fleet : Fleet) : Prop where
  running : fleet.coordinator.running = true
  idle : fleet.coordinator.relay.tally.current = none
  sound : fleet.coordinator.relay.registry.Sound
  patient : 0 ≤ fleet.coordinator.relay.registry.livenessTimeout
  relayRoom : (64 : Int) ≤ fleet.coordinator.config.maxMessageBytes
  deskRoom : 64 ≤ fleet.controller.maxMessageBytes
  home : fleet.controller.relay = fleet.own
  deskApart : fleet.desk ≠ fleet.own
  apart : ∀ seat ∈ fleet.seats, seat.here ≠ fleet.own ∧ seat.here ≠ fleet.desk
  heres : (fleet.seats.map (·.here)).Nodup
  ids : (fleet.seats.map (·.node.id)).Nodup
  somebody : fleet.seats ≠ []
  works : ∀ seat ∈ fleet.seats, seat.Works fleet.own
  free : ∀ seat ∈ fleet.seats, seat.node.pending = []
  present : ((fleet.coordinator.relay.registry.live fleet.now).map fun record =>
    (record.address, record.id)).Perm fleet.roster
  quiet : ∀ parcel ∈ fleet.flying, Beat fleet.own fleet.roster parcel
  blank : fleet.log = [] ∧ fleet.reached = [] ∧ fleet.shown = []

/-- A fleet in which no command runs and nothing is on its way. -/
structure Settled (fleet : Fleet) : Prop where
  quiet : fleet.flying = []
  free : ∀ seat ∈ fleet.seats, seat.node.pending = []

/-- The reply that a message is: when it came, its kind and its device. -/
def reply? (entry : Int × Message) : Option (Int × Kind × String) :=
  match entry.2 with
  | .reply kind id _ => some (entry.1, kind, id)
  | _ => none

/-- The replies that have reached the relay, with the times. -/
def replies (fleet : Fleet) : List (Int × Kind × String) :=
  fleet.reached.filterMap reply?

/-- The kind and the device of a reply that is shown. -/
def answer? : Display -> Option (Kind × String)
  | .reply _ kind id _ => some (kind, id)
  | .notice .. => none

/-- The sessions that a log opens, with the times. -/
def openings (log : List (Int × Relay.Event)) : List (Int × Session) :=
  log.filterMap fun entry => entry.2.opened?.map (entry.1, ·)

/-- The events of a log that close a session. -/
def closings (log : List (Int × Relay.Event)) : List Relay.Event :=
  (log.map (·.2)).filter (·.closed?.isSome)

end Fleet
end CameraFleet
