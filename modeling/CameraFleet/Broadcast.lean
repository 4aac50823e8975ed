/-!
# Broadcasts

A controller asks all workers at once for one of four things.
-/

namespace CameraFleet

/-- What a broadcast asks for. -/
inductive Kind
  | time
  | listing
  | capture
  | upload
  deriving Repr, DecidableEq, Inhabited

namespace Kind

/-- Every kind. -/
def all : List Kind := [.time, .listing, .capture, .upload]

/-- The written name of a kind. -/
def name : Kind -> String
  | .time => "time"
  | .listing => "listing"
  | .capture => "capture"
  | .upload => "upload"

/-- The kind of a name. -/
def ofName? (name : String) : Option Kind :=
  all.find? (·.name == name)

end Kind
end CameraFleet
