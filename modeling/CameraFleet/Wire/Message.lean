import CameraFleet.Broadcast

/-!
# Wire messages

A message is written as a tag and its fields, joined by colons. The last field
takes the remainder, so listings and command output may hold colons and line
breaks; device ids may not.

`Message.WellFormed` says which messages can be read back from their text.
-/

namespace CameraFleet
namespace Wire

/-- What a message is for. -/
inductive Tag
  | register
  | registered
  | heartbeat
  | unregister
  | request (kind : Kind)
  | reply (kind : Kind)
  | error
  deriving Repr, DecidableEq

namespace Tag

/-- The first part of the tags of a kind of broadcast. -/
def stem : Kind -> String
  | .time => "TIME"
  | .listing => "LS"
  | .capture => "CAMERA"
  | .upload => "S3_UPLOAD"

/-- The written tag. -/
def text : Tag -> String
  | .register => "REGISTER"
  | .registered => "REGISTERED"
  | .heartbeat => "HEARTBEAT"
  | .unregister => "UNREGISTER"
  | .request kind => stem kind ++ "_REQUEST"
  | .reply kind => stem kind ++ "_RESPONSE"
  | .error => "ERROR"

/-- Every tag, in the order of the protocol. -/
def all : List Tag :=
  [.register, .registered, .heartbeat, .unregister,
    .request .time, .reply .time, .request .listing, .reply .listing,
    .request .capture, .reply .capture, .request .upload, .reply .upload, .error]

/-- The tag with a written form. -/
def ofText? (text : String) : Option Tag :=
  all.find? (·.text == text)

/-- The kind of a request or reply. -/
def kind? : Tag -> Option Kind
  | .request kind => some kind
  | .reply kind => some kind
  | _ => none

end Tag

/-- A message between a controller, the relay and the workers. -/
inductive Message
  /-- A worker announces itself. -/
  | register (deviceId : String)
  /-- The relay answers a registration. -/
  | registered (status : String)
  /-- A worker says that it is alive. -/
  | heartbeat (deviceId : String)
  /-- A worker leaves. -/
  | unregister (deviceId : String)
  /-- A broadcast, to the relay or from it. -/
  | request (kind : Kind)
  /-- A worker's answer to a broadcast. -/
  | reply (kind : Kind) (deviceId payload : String)
  /-- The relay refuses a broadcast. -/
  | error (code detail : String)
  deriving Repr, DecidableEq

namespace Message

/-- The tag of a message. -/
def tag : Message -> Tag
  | .register _ => .register
  | .registered _ => .registered
  | .heartbeat _ => .heartbeat
  | .unregister _ => .unregister
  | .request kind => .request kind
  | .reply kind _ _ => .reply kind
  | .error _ _ => .error

/-- The text of a message, without the line break that ends it. -/
def text : Message -> String
  | .register deviceId => Tag.register.text ++ ":" ++ deviceId
  | .registered status => Tag.registered.text ++ ":" ++ status
  | .heartbeat deviceId => Tag.heartbeat.text ++ ":" ++ deviceId
  | .unregister deviceId => Tag.unregister.text ++ ":" ++ deviceId
  | .request kind => (Tag.request kind).text
  | .reply kind deviceId payload =>
      (Tag.reply kind).text ++ ":" ++ deviceId ++ ":" ++ payload
  | .error code detail => Tag.error.text ++ ":" ++ code ++ ":" ++ detail

/--
The messages that their text determines. A lifecycle field is not empty. An
error code is not empty and has no colon. The device id of a reply is not empty
and has neither a colon nor a line break, and a reply to a time request says
something.
-/
def WellFormed : Message -> Prop
  | .register deviceId => deviceId ≠ ""
  | .registered status => status ≠ ""
  | .heartbeat deviceId => deviceId ≠ ""
  | .unregister deviceId => deviceId ≠ ""
  | .request _ => True
  | .reply kind deviceId payload =>
      deviceId ≠ "" ∧ ':' ∉ deviceId.toList ∧ '\n' ∉ deviceId.toList ∧
        (kind = .time -> payload ≠ "")
  | .error code _ => code ≠ "" ∧ ':' ∉ code.toList

instance : DecidablePred WellFormed := fun message => by
  cases message <;> unfold WellFormed <;> infer_instance

end Message
end Wire
end CameraFleet
