import CameraFleet.Calendar

/-!
# Log lines

A log line has a level and a message. A process writes a line when its level
is at least as grave as the configured one, with a time stamp and the name of
the process in front.
-/

namespace CameraFleet
namespace Log

/-- How grave a line is. -/
inductive Level
  | error
  | warn
  | info
  | debug
  deriving Repr, DecidableEq, Inhabited

namespace Level

/-- The written name of a level. -/
def name : Level -> String
  | .error => "error"
  | .warn => "warn"
  | .info => "info"
  | .debug => "debug"

/-- Every level, gravest first. -/
def all : List Level := [.error, .warn, .info, .debug]

/-- The level of a name. -/
def ofName? (name : String) : Option Level :=
  all.find? (·.name == name)

/-- The rank of a level; the gravest has rank zero. -/
def rank : Level -> Nat
  | .error => 0
  | .warn => 1
  | .info => 2
  | .debug => 3

/-- Whether a line of this level is written when `least` is the least grave level wanted. -/
def shownAt (level least : Level) : Bool :=
  level.rank ≤ least.rank

end Level

/-- One line: its level and its message. -/
structure Line where
  /-- How grave the line is. -/
  level : Level
  /-- What it says. -/
  message : String
  deriving Repr, DecidableEq

/-- What a process is for. -/
inductive Role
  | relay
  | worker
  | controller
  deriving Repr, DecidableEq

namespace Role

/-- The written name of a role. -/
def name : Role -> String
  | .relay => "relay"
  | .worker => "worker"
  | .controller => "controller"

/-- The role of a name. -/
def ofName? (name : String) : Option Role :=
  [Role.relay, .worker, .controller].find? (·.name == name)

/-- The name in front of a role's lines; a worker's carries its device id. -/
def label (role : Role) (deviceId : Option String) : String :=
  match role, deviceId with
  | .worker, some id => if id.isEmpty then role.name else role.name ++ ":" ++ id
  | _, _ => role.name

end Role

/-- How a process writes its lines. -/
structure Style where
  /-- The role that names the process. -/
  role : Option Role := none
  /-- The device id of a worker. -/
  deviceId : Option String := none
  /-- A name that overrides the role; an empty one counts as absent. -/
  label : Option String := none
  /-- The least grave level written. -/
  level : Level := .info
  /-- Whether nothing is written at all. -/
  silent : Bool := false

namespace Style

/-- The name in front of the lines. -/
def heading (style : Style) : String :=
  match style.label.filter (!·.isEmpty) with
  | some label => label
  | none =>
      match style.role with
      | some role => role.label style.deviceId
      | none => "camrelay"

/-- The wording of the failure to stamp a line at an instant that has no date. -/
def undatedMessage : String := "Invalid Date pass to format"

/--
A line as it is written at an instant, unless it is held back. A line is stamped
before its level is looked at, so at an instant without a date even a line that
would be held back fails.
-/
def render
    (style : Style)
    (now : Int)
    (line : Line) : Except String (Option String) :=
  if style.silent then .ok none
  else
    match Calendar.timestamp? now with
    | none => .error undatedMessage
    | some stamp =>
        if line.level.shownAt style.level then
          .ok (some s!"{stamp} [{style.heading}:{line.level.name}] {line.message}")
        else .ok none

end Style
end Log
end CameraFleet
