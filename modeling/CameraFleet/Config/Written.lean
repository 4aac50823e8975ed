import CameraFleet.Config.Basic
import CameraFleet.Json.Value

/-!
# Configurations as JSON

The JSON value that describes a configuration in full: every field is there,
and reading the value takes no default.
-/

namespace CameraFleet

/-- A command as a JSON value; only a command with a directory of its own has that member. -/
def Command.toJson (command : Command) : Json :=
  .object ([("command", .string command.program), ("args", .ofTexts command.args)] ++
    (command.cwd.map fun cwd => ("cwd", Json.string cwd)).toList)

/-- The periods as a JSON value. -/
def Timing.toJson (timing : Timing) : Json :=
  .object
    [("responseTimeoutSec", .ofNat timing.response),
      ("heartbeatIntervalSec", .ofNat timing.heartbeat),
      ("livenessTimeoutSec", .ofNat timing.liveness),
      ("sweepIntervalSec", .ofNat timing.sweep),
      ("registrationAckTimeoutSec", .ofNat timing.ack)]

/-- The commands as a JSON value. -/
def Collaborators.toJson (collaborators : Collaborators) : Json :=
  .object
    [("listing", collaborators.listing.toJson),
      ("capture", collaborators.capture.toJson),
      ("upload", collaborators.upload.toJson),
      ("timeoutSec", .ofNat collaborators.timeout)]

/-- A configuration as a JSON value. -/
def Config.toJson (config : Config) : Json :=
  .object
    [("host", .string config.host),
      ("port", .ofNat config.port),
      ("maxDevices", .ofNat config.maxDevices),
      ("maxMessageBytes", .ofNat config.maxMessageBytes),
      ("timing", config.timing.toJson),
      ("broadcastPolicy", .string config.broadcastPolicy.name),
      ("unknownHeartbeat", .string config.unknownHeartbeat.name),
      ("collaborators", config.collaborators.toJson),
      ("upload", .object [("bucket", .string config.bucket)]),
      ("logLevel", .string config.logLevel.name)]

end CameraFleet
