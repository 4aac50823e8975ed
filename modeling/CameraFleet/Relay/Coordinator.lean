import CameraFleet.Relay.Dispatch
import CameraFleet.Wire.Datagram

/-!
# The coordinator

The coordinator runs a relay: it reads datagrams, and a timer closes sessions
that timed out and sweeps the registry. The timer is faster while a session
collects. Every step is a function of the time at which it happens.

The clock holds the timers that were set until they are cleared or go off. They
are part of the state, and so is the one that the coordinator remembers: nothing
but the coordinator's own steps keeps the two alike.
-/

namespace CameraFleet
namespace Relay

open Wire

/-- The period of the timer while a session collects, in milliseconds. -/
def activePeriod : Int := 250

/-- The period of the timer otherwise, in milliseconds. -/
def idlePeriod : Int := 1000

/-- A timer that was set. -/
structure Timer where
  /-- What tells it from every other timer. -/
  handle : Nat
  /-- When it is due. -/
  due : Int
  /-- The period it was set for. -/
  period : Int
  deriving Repr, DecidableEq

/-- A relay with its timer. -/
structure Coordinator where
  /-- The configuration. -/
  config : Config
  /-- Where the relay listens. -/
  here : Endpoint
  /-- The relay. -/
  relay : Relay
  /-- Whether datagrams and the timer are heeded. -/
  running : Bool := false
  /-- When the registry was last swept on schedule. -/
  lastSweepAt : Int := 0
  /-- The timer that was set last, unless it was cleared since. -/
  timer : Option Timer := none
  /-- The timers that the clock holds: set, and neither cleared nor gone off. -/
  pending : List Timer := []
  /-- The number of timers set so far, which is the handle of the next one. -/
  timersSet : Nat := 0
  deriving Repr, DecidableEq

namespace Coordinator

/-- A coordinator that has not been started. -/
def new
    (config : Config)
    (here : Endpoint) : Coordinator :=
  { config, here, relay := Relay.new config }

/-- The period that suits the state. -/
def period (coordinator : Coordinator) : Int :=
  if coordinator.relay.tally.collecting then activePeriod else idlePeriod

/-- Take a timer off the clock, if it is there. -/
def release (coordinator : Coordinator) (handle : Nat) : Coordinator :=
  { coordinator with pending := coordinator.pending.filter (·.handle != handle) }

/-- Clear the timer that was set last. -/
def clearTimer (coordinator : Coordinator) : Coordinator :=
  match coordinator.timer with
  | none => coordinator
  | some timer => { coordinator.release timer.handle with timer := none }

@[simp] theorem relay_clearTimer (coordinator : Coordinator) :
    coordinator.clearTimer.relay = coordinator.relay := by
  unfold clearTimer
  split <;> rfl

@[simp] theorem config_clearTimer (coordinator : Coordinator) :
    coordinator.clearTimer.config = coordinator.config := by
  unfold clearTimer
  split <;> rfl

@[simp] theorem running_clearTimer (coordinator : Coordinator) :
    coordinator.clearTimer.running = coordinator.running := by
  unfold clearTimer
  split <;> rfl

@[simp] theorem lastSweepAt_clearTimer (coordinator : Coordinator) :
    coordinator.clearTimer.lastSweepAt = coordinator.lastSweepAt := by
  unfold clearTimer
  split <;> rfl

@[simp] theorem timersSet_clearTimer (coordinator : Coordinator) :
    coordinator.clearTimer.timersSet = coordinator.timersSet := by
  unfold clearTimer
  split <;> rfl

@[simp] theorem timer_clearTimer (coordinator : Coordinator) :
    coordinator.clearTimer.timer = none := by
  unfold clearTimer
  split <;> simp_all

@[simp] theorem period_clearTimer (coordinator : Coordinator) :
    coordinator.clearTimer.period = coordinator.period := by
  simp [period]

/-- Set a timer. -/
def setTimer
    (coordinator : Coordinator)
    (now : Int) : Coordinator :=
  let timer : Timer :=
    ⟨coordinator.timersSet, now + coordinator.period, coordinator.period⟩
  { coordinator with
    timer := some timer
    pending := coordinator.pending ++ [timer]
    timersSet := coordinator.timersSet + 1 }

/-- Set the timer anew. -/
def schedule
    (coordinator : Coordinator)
    (now : Int) : Coordinator :=
  if coordinator.running then coordinator.clearTimer.setTimer now
  else coordinator.clearTimer

/-- What a step leads to. -/
structure Result where
  /-- The coordinator after it. -/
  coordinator : Coordinator
  /-- What the log is told, in order. -/
  events : List Event := []
  /-- What must be sent, in order. -/
  out : List Outbound := []
  deriving Repr, DecidableEq

/-- Start listening; a coordinator that runs is left alone. -/
def start
    (coordinator : Coordinator)
    (now : Int) : Result :=
  if coordinator.running then { coordinator }
  else
    let started := { coordinator with running := true, lastSweepAt := now }
    { coordinator := started.schedule now
      events :=
        [.ready started.here started.config.maxDevices started.config.broadcastPolicy] }

/-- Stop; a coordinator that does not run is left alone. -/
def stop (coordinator : Coordinator) : Result :=
  if coordinator.running then
    { coordinator := { coordinator.clearTimer with running := false }
      events := [.stopped] }
  else { coordinator }

/-- Set the timer anew if a session collects and the timer is not the fast one. -/
def hasten
    (coordinator : Coordinator)
    (now : Int) : Coordinator :=
  if coordinator.relay.tally.collecting &&
      coordinator.timer.map (·.period) != some activePeriod then
    coordinator.schedule now
  else coordinator

/-- Take a message. -/
def dispatch
    (coordinator : Coordinator)
    (message : Message)
    (sender : Endpoint)
    (now : Int) : Result :=
  let reaction := coordinator.relay.dispatch message sender now
  { coordinator := { coordinator with relay := reaction.relay }.hasten now
    events := reaction.events
    out := reaction.out }

/-- Take a datagram. -/
def receive
    (coordinator : Coordinator)
    (bytes : Bytes)
    (sender : Endpoint)
    (now : Int) : Result :=
  if coordinator.running then
    match Wire.receive bytes coordinator.config.maxMessageBytes with
    | .error (.unknownType tag) => { coordinator, events := [.unknownMessage tag sender] }
    | .error (.malformed tag) => { coordinator, events := [.malformedMessage tag sender] }
    | .ok message => coordinator.dispatch message sender now
  else { coordinator }

/-- Close a session that timed out, and sweep the registry if that is due. -/
def tick
    (coordinator : Coordinator)
    (now : Int) : Result :=
  if coordinator.running then
    let (tally, expired) := coordinator.relay.tally.expire now
    if coordinator.config.timing.sweepPeriod ≤ now - coordinator.lastSweepAt then
      let (registry, swept) := coordinator.relay.registry.sweep now
      { coordinator :=
          { coordinator with
            relay := { coordinator.relay with registry, tally }
            lastSweepAt := now }
        events := timeoutEvents expired ++ sweepEvents swept }
    else
      { coordinator := { coordinator with relay := { coordinator.relay with tally } }
        events := timeoutEvents expired }
  else { coordinator }

/-- What happens when a timer goes off: a tick, and the timer is set anew. -/
def fire
    (coordinator : Coordinator)
    (now : Int) : Result :=
  let result := coordinator.tick now
  { result with coordinator := result.coordinator.schedule now }

/-- A timer goes off: the clock holds it no longer. -/
def goOff
    (coordinator : Coordinator)
    (timer : Timer)
    (now : Int) : Result :=
  (coordinator.release timer.handle).fire now

/-! ## Sending -/

/-- The datagram of a message to be sent. -/
def datagram
    (coordinator : Coordinator)
    (message : Message) : Bytes :=
  Wire.encode message coordinator.config.maxMessageBytes

/-- The event of a message that could not be sent. -/
def sendFailure (out : Outbound) (reason : String) : Event :=
  .sendFailed out.message.tag out.target reason

/-- Something that a step does, in order. -/
inductive Action
  /-- Tell the log. -/
  | report (event : Event)
  /-- Send a datagram, which gets out. -/
  | send (target : Endpoint) (bytes : Bytes)
  deriving Repr, DecidableEq

/-- The fate of a message to be sent: none if it gets out, else the reason why not. -/
abbrev Fate := Option String

/-- Try to send a message. -/
def attempt
    (coordinator : Coordinator)
    (out : Outbound) : Fate -> Coordinator × List Action
  | none => (coordinator, [.send out.target (coordinator.datagram out.message)])
  | some _ => (coordinator, [])

/-- Take note of the fate of a message that was tried: a failure is logged. -/
def note
    (coordinator : Coordinator)
    (out : Outbound) : Fate -> Coordinator × List Action
  | none => (coordinator, [])
  | some reason => (coordinator, [.report (sendFailure out reason)])

/-- Do something for each of some messages, the first of which has a place; each has its fate. -/
def forEach
    (act : Coordinator -> Outbound -> Fate -> Coordinator × List Action)
    (fate : Nat -> Fate)
    (place : Nat)
    (coordinator : Coordinator) : List Outbound -> Coordinator × List Action
  | [] => (coordinator, [])
  | out :: rest =>
      let (next, done) := act coordinator out (fate place)
      let (last, more) := forEach act fate (place + 1) next rest
      (last, done ++ more)

/--
Carry out a step, given the fate of each message. Every message is tried before
the failures are noted.
-/
def Result.perform
    (result : Result)
    (fate : Nat -> Fate) : Coordinator × List Action :=
  let (coordinator, sent) := forEach attempt fate 0 result.coordinator result.out
  let (coordinator, noted) := forEach note fate 0 coordinator result.out
  (coordinator, result.events.map .report ++ sent ++ noted)

end Coordinator
end Relay
end CameraFleet
