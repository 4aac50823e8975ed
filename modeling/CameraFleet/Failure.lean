import CameraFleet.Json.Value
import CameraFleet.Number.Shortest

/-!
# Failures

What ends a process while it starts, and the wording of anything that a caller
may be handed as a failure.
-/

namespace CameraFleet

/-- What a process was doing when it could not start. -/
inductive Stage
  /-- It looked up a host. -/
  | resolve
  /-- It made a socket. -/
  | socket
  /-- It bound the socket. -/
  | bind
  deriving Repr, DecidableEq

namespace Stage

/-- The written name of a stage. -/
def name : Stage -> String
  | .resolve => "resolve"
  | .socket => "socket"
  | .bind => "bind"

/-- The stage of a name. -/
def ofName? (name : String) : Option Stage :=
  [Stage.resolve, .socket, .bind].find? (·.name == name)

end Stage

/-- Why a process cannot start. -/
structure StartupError where
  /-- What it was doing. -/
  stage : Stage
  /-- What went wrong. -/
  message : String
  /-- The failure behind it. -/
  cause : String := ""
  deriving Repr, DecidableEq

namespace StartupError

/-- The name of this kind of error. -/
def name : String := "StartupError"

/-- The error as one text; an empty message is left out. -/
def text (error : StartupError) : String :=
  if error.message.isEmpty then name else name ++ ": " ++ error.message

/-- The lookup of a host failed. -/
def ofLookup (host cause : String) : StartupError :=
  { stage := .resolve, message := s!"Failed to resolve {host}: {cause}", cause }

/-- No socket could be made. -/
def ofSocket (cause : String) : StartupError :=
  { stage := .socket, message := s!"Failed to create socket: {cause}", cause }

/-- A socket could not be bound. -/
def ofBind (host : String) (port : Int) (cause : String) : StartupError :=
  { stage := .bind, message := s!"Failed to bind {host}:{port}: {cause}", cause }

end StartupError

/-- Something that a caller is handed as a failure. -/
inductive Thrown
  /-- An error with a message. -/
  | error (message : String)
  /-- A bare value. -/
  | value (value : Json)

namespace Thrown

/-- The wording of a failure: the message of an error, or the value as text. -/
def message : Thrown -> String
  | .error message => message
  | .value .null => "null"
  | .value (.bool true) => "true"
  | .value (.bool false) => "false"
  | .value (.number n) => n.text
  | .value (.string s) => s
  | .value (.array _) | .value (.object _) => ""

end Thrown
end CameraFleet
