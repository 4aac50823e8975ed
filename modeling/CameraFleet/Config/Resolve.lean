import CameraFleet.Config.Basic
import CameraFleet.Json.Value

/-!
# Resolving a configuration

A configuration is read from a JSON value, field by field. A field that is
absent or not acceptable gets its default, whatever the other fields hold.
-/

namespace CameraFleet
namespace Config

/-- A positive integer. -/
def positive? (value : Json) : Option Nat :=
  value.int?.bind fun n => if 0 < n then some n.toNat else none

/-- A positive integer in a field, or else a default. -/
def positiveField
    (object : Json)
    (name : String)
    (fallback : Nat) : Nat :=
  ((object.member? name).bind positive?).getD fallback

/-- A text in a field. -/
def textField? (object : Json) (name : String) : Option String :=
  (object.member? name).bind Json.text?

/-- A text in a field that is not empty. -/
def wordField? (object : Json) (name : String) : Option String :=
  (textField? object name).filter (!·.isEmpty)

/-- The value of a field; a field that is absent has no members either. -/
def section? (object : Json) (name : String) : Json :=
  (object.member? name).getD .null

/-- A command in a field: it needs a program, and arguments that are no texts are left out. -/
def commandField
    (object : Json)
    (name : String)
    (fallback : Command) : Command :=
  let entry := section? object name
  match wordField? entry "command" with
  | none => fallback
  | some program =>
      { program
        args := (((entry.member? "args").bind Json.items?).getD []).filterMap Json.text?
        cwd := textField? entry "cwd" }

/-- The first port number that cannot be used. -/
def portLimit : Nat := 65536

/-- The least size of a receive buffer: it holds any tag and what ends a message. -/
def leastMessageBytes : Nat := 64

/-- The port in a field, if it can be used. -/
def portField? (object : Json) (name : String) : Option Nat :=
  ((object.member? name).bind positive?).filter (· < portLimit)

/-- The policy for broadcasts in a field. -/
def policyField (object : Json) (name : String) : Policy :=
  if textField? object name = some Policy.replace.name then .replace else .reject

/-- The policy for unknown devices in a field. -/
def strangerField (object : Json) (name : String) : StrangerPolicy :=
  if textField? object name = some StrangerPolicy.ignore.name then .ignore else .register

/-- The periods of a configuration. -/
def resolveTiming (object : Json) : Timing :=
  let usual : Timing := {}
  { response := positiveField object "responseTimeoutSec" usual.response
    heartbeat := positiveField object "heartbeatIntervalSec" usual.heartbeat
    liveness := positiveField object "livenessTimeoutSec" usual.liveness
    sweep := positiveField object "sweepIntervalSec" usual.sweep
    ack := positiveField object "registrationAckTimeoutSec" usual.ack }

/-- The commands of a configuration. -/
def resolveCollaborators (object : Json) : Collaborators :=
  let usual : Collaborators := {}
  { listing := commandField object "listing" usual.listing
    capture := commandField object "capture" usual.capture
    upload := commandField object "upload" usual.upload
    timeout := positiveField object "timeoutSec" usual.timeout }

/-- The configuration that a JSON value describes. -/
def resolve (raw : Json) : Config :=
  let usual : Config := {}
  { host := (textField? raw "host").getD usual.host
    port := (portField? raw "port").getD usual.port
    maxDevices := positiveField raw "maxDevices" usual.maxDevices
    maxMessageBytes :=
      max leastMessageBytes (positiveField raw "maxMessageBytes" usual.maxMessageBytes)
    timing := resolveTiming (section? raw "timing")
    broadcastPolicy := policyField raw "broadcastPolicy"
    unknownHeartbeat := strangerField raw "unknownHeartbeat"
    collaborators := resolveCollaborators (section? raw "collaborators")
    bucket := (wordField? (section? raw "upload") "bucket").getD usual.bucket
    logLevel := ((textField? raw "logLevel").bind Log.Level.ofName?).getD usual.logLevel }

end Config
end CameraFleet
