import CameraFleet.Broadcast
import CameraFleet.Device.Id
import CameraFleet.Text.CharClass

/-!
# Command lines

The first argument says what to run. A port is written in decimal digits and
lies between 1 and 65535. What can be typed at a controller is one command a line.
-/

namespace CameraFleet
namespace CommandLine

/-- What to run. -/
inductive Invocation
  | relay (port : Option Nat)
  | worker (deviceId host : String) (port : Option Nat)
  | controller (host : String) (port : Option Nat)
  | help
  deriving Repr, DecidableEq

/-- Why the arguments say nothing that can be run. -/
inductive UsageError
  /-- The port cannot be used. -/
  | invalidPort (text : String)
  /-- A worker needs its id and its relay. -/
  | workerArguments
  /-- The id cannot name a device. -/
  | invalidDeviceId (id : String)
  /-- A controller needs its relay. -/
  | controllerArguments
  /-- There is no such command. -/
  | unknownCommand (command : String)
  deriving Repr, DecidableEq

namespace UsageError

/-- The wording of an error. -/
def message : UsageError -> String
  | .invalidPort text => "Invalid port: " ++ text
  | .workerArguments => "worker needs <device-id> and <relay-host>"
  | .invalidDeviceId id => s!"Invalid device id \"{id}\" (max 31 bytes, no \":\")"
  | .controllerArguments => "controller needs <relay-host>"
  | .unknownCommand command => "Unknown command: " ++ command

end UsageError

/-- How the program is used. -/
def usage : String :=
  String.intercalate "\n"
    ["Usage:",
      "  camrelay relay [port]                              Run the relay coordinator",
      "  camrelay worker <device-id> <relay-host> [port]    Run a worker node",
      "  camrelay controller <relay-host> [port]            Run the interactive controller",
      "",
      "Example:",
      "  camrelay worker PiZero-01 192.168.1.100 8080"]

/-- The port that a text names. -/
def port? (text : String) : Option Nat :=
  if text.isEmpty || !text.toList.all Char.isDigit then none
  else
    let port := text.toList.foldl (fun n c => n * 10 + (c.toNat - '0'.toNat)) 0
    if 0 < port && port < 65536 then some port else none

/-- The port that comes first among some arguments, if any comes. -/
def optionalPort : List String -> Except UsageError (Option Nat)
  | [] => .ok none
  | text :: _ =>
      match port? text with
      | some port => .ok (some port)
      | none => .error (.invalidPort text)

/-- Read the arguments of a relay. -/
def parseRelay (rest : List String) : Except UsageError Invocation :=
  (optionalPort rest).map .relay

/-- Read the arguments of a worker. -/
def parseWorker : List String -> Except UsageError Invocation
  | deviceId :: host :: rest =>
      if deviceId.isEmpty || host.isEmpty then .error .workerArguments
      else if Device.ValidId deviceId then
        (optionalPort rest).map (.worker deviceId host)
      else .error (.invalidDeviceId deviceId)
  | _ => .error .workerArguments

/-- Read the arguments of a controller. -/
def parseController : List String -> Except UsageError Invocation
  | host :: rest =>
      if host.isEmpty then .error .controllerArguments
      else (optionalPort rest).map (.controller host)
  | [] => .error .controllerArguments

/-- Read the arguments of the program. -/
def parse : List String -> Except UsageError Invocation
  | [] => .ok .help
  | command :: rest =>
      if command = "relay" then parseRelay rest
      else if command = "worker" then parseWorker rest
      else if command = "controller" then parseController rest
      else if command = "help" || command = "--help" || command = "-h" then .ok .help
      else .error (.unknownCommand command)

/-! ## The controller's prompt -/

/-- A line typed at a controller. -/
inductive Input
  | broadcast (kind : Kind)
  | status
  | help
  | quit
  | none
  | unknown (input : String)
  deriving Repr, DecidableEq

/-- The commands of a controller. -/
def controllerHelp : String :=
  String.intercalate "\n"
    ["Commands:",
      "  time     Request time from all workers",
      "  ls       Request a directory listing from all workers",
      "  capture  Capture an image on all workers",
      "  upload   Upload captured images from all workers",
      "  status   Show connection status",
      "  quit     Exit"]

namespace Input

/-- The words that can be typed. -/
def words : List (String × Input) :=
  [("", .none), ("time", .broadcast .time), ("ls", .broadcast .listing),
    ("list", .broadcast .listing), ("capture", .broadcast .capture),
    ("upload", .broadcast .upload), ("status", .status), ("help", .help),
    ("quit", .quit), ("exit", .quit)]

/-- Read a line; white space around it does not count. -/
def parse (line : String) : Input :=
  let word := Text.trim line
  (words.lookup word).getD (.unknown word)

end Input
end CommandLine
end CameraFleet
