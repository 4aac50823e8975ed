import CameraFleet.Calendar
import CameraFleet.Endpoint
import CameraFleet.Log
import CameraFleet.Outcome
import CameraFleet.Text.CharClass
import CameraFleet.Wire.Datagram

/-!
# Controllers

A controller sends broadcasts to the relay and shows every reply as it comes.
Nothing marks the end of the replies; the controller only counts them.
-/

namespace CameraFleet

open Wire

/-- What a controller shows. -/
inductive Display
  /-- A worker's reply. -/
  | reply (receivedAt : Int) (kind : Kind) (deviceId payload : String)
  /-- A notice of the relay. -/
  | notice (receivedAt : Int) (code detail : String)
  deriving Repr, DecidableEq

namespace Display

/-- The word that opens the display of an outcome. -/
def label : Kind -> String
  | .capture => "Capture"
  | .upload => "Upload"
  | .listing => "Listing"
  | .time => "Time"

/-- A reply received at an instant, as it is shown. -/
def replyText
    (instant : Option Int)
    (kind : Kind)
    (deviceId payload : String) : String :=
  let heading := s!"[{Calendar.localTime instant}] [{deviceId}]"
  match kind with
  | .time => s!"{heading} {label kind}: {payload}"
  | .listing => s!"{heading} {label kind}:\n{payload}"
  | .capture | .upload =>
      match Outcome.parse? payload with
      | none => s!"{heading} {label kind}: {payload}"
      | some outcome =>
          let verdict := if outcome.ok then "succeeded" else "failed"
          let head := s!"{heading} {label kind} {verdict}: {outcome.detail}"
          if outcome.output.isEmpty then head else head ++ "\n" ++ outcome.output

/-- A notice received at an instant, as it is shown: without white space at its end. -/
def noticeText
    (instant : Option Int)
    (code detail : String) : String :=
  Text.trimEnd s!"[{Calendar.localTime instant}] Relay: {code} {detail}"

/-- What is shown, as text. -/
def text : Display -> String
  | .reply receivedAt kind deviceId payload => replyText (some receivedAt) kind deviceId payload
  | .notice receivedAt code detail => noticeText (some receivedAt) code detail

end Display

/-- A controller. -/
structure Controller where
  /-- The relay that it asks. -/
  relay : Endpoint
  /-- The size of its receive buffer, in bytes. -/
  maxMessageBytes : Int
  /-- Whether notices of the relay are shown. -/
  showsNotices : Bool := true
  /-- The latest broadcast and when it was sent. -/
  lastRequest : Option (Kind × Int) := none
  /-- The replies since then. -/
  replies : Nat := 0
  deriving Repr, DecidableEq

namespace Controller

/-- Something that a controller tells its log. -/
inductive Event
  /-- A broadcast was sent. -/
  | sent (kind : Kind) (relay : Endpoint)
  /-- A broadcast could not be sent. -/
  | sendFailed (kind : Kind) (reason : String)
  /-- A datagram is no message. -/
  | unreadable (refusal : Refusal) (sender : Endpoint)
  /-- A message came that is not for controllers. -/
  | ignored (tag : Tag) (sender : Endpoint)
  deriving Repr, DecidableEq

namespace Event

/-- The level of an event. -/
def level : Event -> Log.Level
  | .sent .. => .info
  | .sendFailed .. => .error
  | .unreadable .. | .ignored .. => .debug

/-- The wording of an event. -/
def wording : Event -> String
  | .sent kind relay => s!"Sent {(Tag.request kind).text} to {relay}"
  | .sendFailed kind reason => s!"Failed to send {(Tag.request kind).text}: {reason}"
  | .unreadable refusal sender =>
      s!"Dropping {refusal.reason} message \"{refusal.tagText}\" from {sender}"
  | .ignored tag sender => s!"Ignoring {tag.text} from {sender}"

/-- The log line of an event. -/
def line (event : Event) : Log.Line :=
  ⟨event.level, "[relay:controller] " ++ event.wording⟩

end Event

/-- Something that a step does, in order. -/
inductive Action
  /-- Tell the log. -/
  | report (event : Event)
  /-- Send a datagram, which gets out. -/
  | send (target : Endpoint) (message : Message)
  /-- Show something. -/
  | display (shown : Display)
  /-- A request has ended; the answer says whether it was sent. -/
  | requested (sent : Bool)
  deriving Repr, DecidableEq

/-- The datagram of a message. -/
def datagram (controller : Controller) (message : Message) : Bytes :=
  Wire.encode message controller.maxMessageBytes

/-- Send a broadcast; `link` holds the reason if it does not get out. -/
def request
    (controller : Controller)
    (kind : Kind)
    (now : Int)
    (link : Option String) : Controller × List Action :=
  match link with
  | none =>
      ({ controller with lastRequest := some (kind, now), replies := 0 },
        [.send controller.relay (.request kind), .report (.sent kind controller.relay),
          .requested true])
  | some reason => (controller, [.report (.sendFailed kind reason), .requested false])

/-- Take a message. -/
def take
    (controller : Controller)
    (message : Message)
    (sender : Endpoint)
    (now : Int) : Controller × List Action :=
  match message with
  | .reply kind deviceId payload =>
      ({ controller with replies := controller.replies + 1 },
        [.display (.reply now kind deviceId payload)])
  | .error code detail =>
      (controller, if controller.showsNotices then [.display (.notice now code detail)] else [])
  | _ => (controller, [.report (.ignored message.tag sender)])

/-- Take a datagram. -/
def receive
    (controller : Controller)
    (bytes : Bytes)
    (sender : Endpoint)
    (now : Int) : Controller × List Action :=
  match Wire.receive bytes controller.maxMessageBytes with
  | .error refusal => (controller, [.report (.unreadable refusal sender)])
  | .ok message => controller.take message sender now

end Controller
end CameraFleet
