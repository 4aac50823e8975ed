import CameraFleet.Config.Basic
import CameraFleet.Relay.Event

/-!
# The relay's protocol

The relay keeps the registry and the tally. Each message changes them and
leads to events for the log and to messages that the relay must send. Time and
sender come from outside, so this is a function.
-/

namespace CameraFleet

/-- What the relay knows. -/
structure Relay where
  /-- The devices. -/
  registry : Device.Registry
  /-- The broadcasts. -/
  tally : Tally
  /-- What happens to a heartbeat of an unknown device. -/
  unknownHeartbeat : StrangerPolicy
  deriving Repr, DecidableEq

/-- A message on its way, with its destination. -/
structure Outbound where
  /-- Where it goes. -/
  target : Endpoint
  /-- The message. -/
  message : Wire.Message
  deriving Repr, DecidableEq

namespace Relay

open Wire Device

/-- The relay of a configuration, before any message. -/
def new (config : Config) : Relay :=
  { registry :=
      { capacity := config.maxDevices
        livenessTimeout := config.timing.livenessTimeout }
    tally :=
      { responseTimeout := config.timing.responseTimeout
        policy := config.broadcastPolicy }
    unknownHeartbeat := config.unknownHeartbeat }

/-- What a message leads to. -/
structure Reaction where
  /-- The relay after it. -/
  relay : Relay
  /-- What the log is told, in order. -/
  events : List Event := []
  /-- What must be sent, in order. -/
  out : List Outbound := []
  deriving Repr, DecidableEq

/-- The status that answers a registration. -/
def status : Except RegisterError Registry.Registration -> String
  | .ok _ => "OK"
  | .error .capacityExceeded => "FULL"
  | .error .invalidId => "INVALID"

/-- What the log is told of a registration. -/
def registrationEvent
    (registry : Registry)
    (id : String)
    (sender : Endpoint)
    (viaHeartbeat : Bool) : Except RegisterError Registry.Registration -> Event
  | .ok registration =>
      if registration.created then
        .registered id sender viaHeartbeat registry.size registry.capacity
      else .renewed id sender viaHeartbeat
  | .error .capacityExceeded => .full id registry.capacity
  | .error .invalidId => .invalidId sender

/-- Register a device and answer it. -/
def register
    (relay : Relay)
    (id : String)
    (sender : Endpoint)
    (now : Int)
    (viaHeartbeat : Bool) : Reaction :=
  let (registry, result) := relay.registry.register id sender now
  { relay := { relay with registry }
    events := [registrationEvent registry id sender viaHeartbeat result]
    out := [⟨sender, .registered (status result)⟩] }

/-- Take a heartbeat. -/
def heartbeat
    (relay : Relay)
    (id : String)
    (sender : Endpoint)
    (now : Int) : Reaction :=
  let (registry, known) := relay.registry.heartbeat id now
  if known then
    { relay := { relay with registry }, events := [.heartbeat id] }
  else
    match relay.unknownHeartbeat with
    | .ignore => { relay, events := [.strangeHeartbeat id] }
    | .register => relay.register id sender now true

/-- Let a device go. -/
def unregister
    (relay : Relay)
    (id : String) : Reaction :=
  let (registry, known) := relay.registry.unregister id
  { relay := { relay with registry }
    events := [if known then .unregistered id else .strangeUnregister id] }

/-- The events of a sweep. -/
def sweepEvents (swept : List Record) : List Event :=
  swept.map fun record => .fellSilent record.id

/-- The event of a session that timed out, if one did. -/
def timeoutEvents (expired : Option Session) : List Event :=
  (expired.map Event.timedOut).toList

/-- The answer to a broadcast in the middle of a session. -/
def busyNotice (active : Session) : Message :=
  .error "BUSY" s!"{active.kind.name} request in progress ({Event.progress active} replies)"

/-- The answer to a broadcast that finds nobody. -/
def nobodyNotice : Message :=
  .error "NO_DEVICES" "No active devices registered"

/--
Take a broadcast. Stale devices are deactivated first, so that they are neither
asked nor waited for.
-/
def broadcast
    (relay : Relay)
    (kind : Kind)
    (sender : Endpoint)
    (now : Int) : Reaction :=
  let (registry, swept) := relay.registry.sweep now
  let targets := registry.active
  let (tally, result) := relay.tally.begin kind sender (targets.map (·.id)) now
  let relay := { relay with registry, tally }
  match result with
  | .error active =>
      { relay
        events := sweepEvents swept ++ [.refused kind sender active]
        out := [⟨sender, busyNotice active⟩] }
  | .ok opening =>
      let before := sweepEvents swept ++ timeoutEvents opening.expired ++
        (opening.replaced.map Event.abandoned).toList
      if opening.completed then
        { relay
          events := before ++ [.nobody kind sender]
          out := [⟨sender, nobodyNotice⟩] }
      else
        { relay
          events := before ++ [.forwarding kind targets.length opening.session]
          out := targets.map fun record => ⟨record.address, .request kind⟩ }

/-- How a reply with this receipt stands to the tally. -/
def standing (receipt : Tally.Receipt) : Standing :=
  if receipt.late then .late else if receipt.tallied then .tallied else .untallied

/-- Take a reply and forward it. -/
def reply
    (relay : Relay)
    (kind : Kind)
    (deviceId payload : String)
    (now : Int) : Reaction :=
  let (tally, receipt) := relay.tally.record kind deviceId now
  let relay := { relay with tally }
  let before := timeoutEvents receipt.expired
  match receipt.forwardTo with
  | none => { relay, events := before ++ [.unasked kind deviceId] }
  | some requester =>
      { relay
        events := before ++ [.forwarded kind deviceId (standing receipt)] ++
          (receipt.completed.map Event.completed).toList
        out := [⟨requester, .reply kind deviceId payload⟩] }

/-- Take a message. -/
def dispatch
    (relay : Relay)
    (message : Message)
    (sender : Endpoint)
    (now : Int) : Reaction :=
  match message with
  | .register id => relay.register id sender now false
  | .heartbeat id => relay.heartbeat id sender now
  | .unregister id => relay.unregister id
  | .request kind => relay.broadcast kind sender now
  | .reply kind deviceId payload => relay.reply kind deviceId payload now
  | .registered _ => { relay, events := [.ignored .registered sender] }
  | .error _ _ => { relay, events := [.ignored .error sender] }

end Relay
end CameraFleet
