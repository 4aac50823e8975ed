import CameraFleet.Command
import CameraFleet.Log
import CameraFleet.Session.Tally

/-!
# Configuration

What an operator can set. Periods are whole seconds and at least one.
-/

namespace CameraFleet

/-- A number of seconds, in milliseconds. -/
def milliseconds (seconds : Nat) : Nat :=
  seconds * 1000

/-- The periods of the protocol, in seconds. -/
structure Timing where
  /-- How long a broadcast session collects replies. -/
  response : Nat := 2
  /-- How often a worker sends a heartbeat. -/
  heartbeat : Nat := 30
  /-- The silence after which a device is deactivated. -/
  liveness : Nat := 90
  /-- How often the relay looks for silent devices. -/
  sweep : Nat := 30
  /-- How long a worker waits for the answer to its registration. -/
  ack : Nat := 5
  deriving Repr, DecidableEq

namespace Timing

/-- How long a broadcast session collects replies, in milliseconds. -/
def responseTimeout (timing : Timing) : Nat :=
  milliseconds timing.response

/-- The time between two heartbeats of a worker, in milliseconds. -/
def heartbeatPeriod (timing : Timing) : Nat :=
  milliseconds timing.heartbeat

/-- The silence after which a device is deactivated, in milliseconds. -/
def livenessTimeout (timing : Timing) : Nat :=
  milliseconds timing.liveness

/-- The time between two sweeps on schedule, in milliseconds. -/
def sweepPeriod (timing : Timing) : Nat :=
  milliseconds timing.sweep

/-- How long a worker waits for the answer to its registration, in milliseconds. -/
def ackTimeout (timing : Timing) : Nat :=
  milliseconds timing.ack

end Timing

/-- What the relay does with a heartbeat of a device that it does not know. -/
inductive StrangerPolicy
  /-- The heartbeat registers the device. -/
  | register
  /-- The heartbeat is ignored. -/
  | ignore
  deriving Repr, DecidableEq, Inhabited

namespace StrangerPolicy

/-- The written name of a policy. -/
def name : StrangerPolicy -> String
  | .register => "register"
  | .ignore => "ignore"

end StrangerPolicy

/-- The commands that a worker runs. -/
structure Collaborators where
  /-- Lists the pictures. -/
  listing : Command := { program := "ls", args := ["-la"] }
  /-- Takes a picture. -/
  capture : Command :=
    { program := "libcamera-still"
      args := ["-n", "-t", "1", "--width", "4056", "--height", "3040",
        "-e", "png", "-o", "\x7bfile\x7d", "--immediate"] }
  /-- Uploads the pictures. -/
  upload : Command :=
    { program := "aws"
      args := ["s3", "cp", ".", "\x7bdestination\x7d",
        "--recursive", "--exclude", "*", "--include", "*.png"] }
  /-- The longest run, in seconds. -/
  timeout : Nat := 120
  deriving Repr, DecidableEq

/-- The longest run of a command, in milliseconds. -/
def Collaborators.runLimit (collaborators : Collaborators) : Nat :=
  milliseconds collaborators.timeout

/-- The whole configuration. -/
structure Config where
  /-- The address on which the relay listens. -/
  host : String := "0.0.0.0"
  /-- The port on which the relay listens. -/
  port : Nat := 8080
  /-- The most devices that the relay knows. -/
  maxDevices : Nat := 10
  /-- The size of the receive buffers, in bytes. -/
  maxMessageBytes : Nat := 1024
  /-- The periods. -/
  timing : Timing := {}
  /-- What happens to a broadcast in the middle of a session. -/
  broadcastPolicy : Policy := .reject
  /-- What happens to a heartbeat of an unknown device. -/
  unknownHeartbeat : StrangerPolicy := .register
  /-- The commands. -/
  collaborators : Collaborators := {}
  /-- The bucket of the uploads. -/
  bucket : String := "camrelay-captures"
  /-- The least grave log level that is written. -/
  logLevel : Log.Level := .info
  deriving Repr, DecidableEq

end CameraFleet
