import CameraFleet.Device.Registry
import CameraFleet.Log
import CameraFleet.Session.Tally
import CameraFleet.Wire.Message

/-!
# Events of the relay

Everything that the relay tells its log, as data. Three events close a session:
it timed out, it was abandoned, or it was completed.
-/

namespace CameraFleet
namespace Relay

open Wire

/-- How a forwarded reply stands to the tally. -/
inductive Standing
  /-- It was tallied. -/
  | tallied
  /-- It was not, though a session collects. -/
  | untallied
  /-- It came after the session had closed. -/
  | late
  deriving Repr, DecidableEq

namespace Standing

/-- The remark on a forwarded reply. -/
def remark : Standing -> String
  | .tallied => ""
  | .untallied => " (not tallied)"
  | .late => " (late, not tallied)"

end Standing

/-- Something that the relay tells its log. -/
inductive Event
  /-- The relay listens. -/
  | ready (here : Endpoint) (maxDevices : Nat) (policy : Policy)
  /-- The relay has stopped. -/
  | stopped
  /-- A datagram's tag is unknown. -/
  | unknownMessage (tag : String) (sender : Endpoint)
  /-- A datagram has a known tag, but not its fields. -/
  | malformedMessage (tag : Tag) (sender : Endpoint)
  /-- A message came that is not for the relay. -/
  | ignored (tag : Tag) (sender : Endpoint)
  /-- A datagram could not be sent. -/
  | sendFailed (tag : Tag) (target : Endpoint) (reason : String)
  /-- A device registered for the first time. -/
  | registered
      (id : String)
      (sender : Endpoint)
      (viaHeartbeat : Bool)
      (total : Nat)
      (capacity : Int)
  /-- A known device registered again. -/
  | renewed (id : String) (sender : Endpoint) (viaHeartbeat : Bool)
  /-- There was no room for a device. -/
  | full (id : String) (capacity : Int)
  /-- An id cannot name a device. -/
  | invalidId (sender : Endpoint)
  /-- A known device is alive. -/
  | heartbeat (id : String)
  /-- An unknown device is alive. -/
  | strangeHeartbeat (id : String)
  /-- A device left. -/
  | unregistered (id : String)
  /-- A device left that was never there. -/
  | strangeUnregister (id : String)
  /-- A device was silent for too long. -/
  | fellSilent (id : String)
  /-- A broadcast was refused because a session collects. -/
  | refused (kind : Kind) (sender : Endpoint) (active : Session)
  /-- A session ran out of time. -/
  | timedOut (session : Session)
  /-- A session was given up for another broadcast. -/
  | abandoned (session : Session)
  /-- A broadcast found no active device. -/
  | nobody (kind : Kind) (sender : Endpoint)
  /-- A broadcast goes out to a number of devices. -/
  | forwarding (kind : Kind) (count : Nat) (session : Session)
  /-- A reply came, but nobody has asked. -/
  | unasked (kind : Kind) (deviceId : String)
  /-- A reply was forwarded. -/
  | forwarded (kind : Kind) (deviceId : String) (standing : Standing)
  /-- All devices of a session have answered. -/
  | completed (session : Session)
  deriving Repr, DecidableEq

namespace Event

/-- The remark on a registration by heartbeat. -/
def viaRemark (viaHeartbeat : Bool) : String :=
  if viaHeartbeat then " (implicit, from heartbeat)" else ""

/-- The tally of a session, as `received/expected`. -/
def progress (session : Session) : String :=
  s!"{session.receivedCount}/{session.expectedCount}"

/-- The remark on the devices that have not answered. -/
def missingRemark (session : Session) : String :=
  match session.missing with
  | [] => ""
  | ids => ", no reply from " ++ String.intercalate ", " ids

/-- The level of an event. -/
def level : Event -> Log.Level
  | .ready .. | .stopped | .registered .. | .renewed .. | .unregistered _
  | .forwarding .. | .forwarded .. | .completed _ => .info
  | .malformedMessage .. | .sendFailed .. | .full .. | .invalidId _ | .fellSilent _
  | .refused .. | .timedOut _ | .abandoned _ | .nobody .. => .warn
  | .unknownMessage .. | .ignored .. | .heartbeat _ | .strangeHeartbeat _
  | .strangeUnregister _ | .unasked .. => .debug

/-- The wording of an event. -/
def wording : Event -> String
  | .ready here maxDevices policy =>
      s!"Relay ready on {here} (max devices: {maxDevices}, policy: {policy.name})"
  | .stopped => "Relay stopped"
  | .unknownMessage tag sender => s!"Dropping unknown message \"{tag}\" from {sender}"
  | .malformedMessage tag sender => s!"Dropping malformed {tag.text} from {sender}"
  | .ignored tag sender => s!"Ignoring {tag.text} from {sender}"
  | .sendFailed tag target reason => s!"Failed to send {tag.text} to {target}: {reason}"
  | .registered id sender via total capacity =>
      s!"Registered new device {id} at {sender}{viaRemark via} (total: {total}/{capacity})"
  | .renewed id sender via => s!"Updated registration for {id} at {sender}{viaRemark via}"
  | .full id capacity => s!"Rejected {id}: device limit reached ({capacity})"
  | .invalidId sender => s!"Rejected invalid device id from {sender}"
  | .heartbeat id => s!"Heartbeat from {id}"
  | .strangeHeartbeat id => s!"Ignoring heartbeat from unknown device {id}"
  | .unregistered id => s!"Device {id} unregistered"
  | .strangeUnregister id => s!"UNREGISTER for unknown device {id}"
  | .fellSilent id => s!"Marked {id} inactive (no heartbeat)"
  | .refused kind sender active =>
      s!"Rejected {(Tag.request kind).text} from {sender}: " ++
        s!"{active.kind.name} {active.id} still collecting"
  | .timedOut session =>
      s!"Timeout reached for {session.kind.name} {session.id}: " ++
        s!"{progress session} replies{missingRemark session}"
  | .abandoned session =>
      s!"Abandoned {session.kind.name} {session.id} at {progress session} replies"
  | .nobody kind sender => s!"{(Tag.request kind).text} from {sender}: no active devices"
  | .forwarding kind count session =>
      s!"Forwarding {(Tag.request kind).text} to {count} device(s) ({session.id})"
  | .unasked kind deviceId =>
      s!"Dropping {(Tag.reply kind).text} from {deviceId}: no requester"
  | .forwarded kind deviceId standing =>
      s!"Forwarded {(Tag.reply kind).text} from {deviceId}{standing.remark}"
  | .completed session =>
      s!"All {session.receivedCount} device(s) responded to " ++
        s!"{session.kind.name} ({session.id})"

/-- The log line of an event. -/
def line (event : Event) : Log.Line :=
  ⟨event.level, "[relay:coordinator] " ++ event.wording⟩

end Event
end Relay
end CameraFleet
