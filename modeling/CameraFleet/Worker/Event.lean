import CameraFleet.Endpoint
import CameraFleet.Log
import CameraFleet.Wire.Reader

/-!
# Events of a worker

Everything that a worker tells its log, as data.
-/

namespace CameraFleet
namespace Worker

open Wire

/-- The broadcasts that a worker answers by running a command. -/
inductive Job
  | listing
  | capture
  | upload
  deriving Repr, DecidableEq

namespace Job

/-- The kind of broadcast that a job answers. -/
def kind : Job -> Kind
  | .listing => .listing
  | .capture => .capture
  | .upload => .upload

/-- The job that answers a kind of broadcast; the time is answered at once. -/
def ofKind? : Kind -> Option Job
  | .time => none
  | .listing => some .listing
  | .capture => some .capture
  | .upload => some .upload

/-- The word that opens the warning about a run that failed. -/
def title : Job -> String
  | .listing => "Listing"
  | .capture => "Capture"
  | .upload => "Upload"

end Job

/-- Something that a worker tells its log. -/
inductive Event
  /-- The registration goes out. -/
  | registering (relay : Endpoint) (id : String)
  /-- The relay accepted the registration. -/
  | acknowledged
  /-- No answer to the registration came in time. -/
  | unanswered
  /-- The relay refused the registration. -/
  | refused (status : String)
  /-- The worker is ready. -/
  | ready (id : String)
  /-- The worker has stopped. -/
  | stopped (id : String)
  /-- A datagram is no message. -/
  | unreadable (refusal : Refusal) (sender : Endpoint)
  /-- The relay asks for the time. -/
  | timeAsked (sender : Endpoint)
  /-- The relay reports an error. -/
  | relayError (code detail : String)
  /-- A message came that is not for workers. -/
  | ignored (tag : Tag) (sender : Endpoint)
  /-- A heartbeat went out. -/
  | heartbeatSent
  /-- The relay reports a status later on. -/
  | statusReported (status : String)
  /-- A job begins. -/
  | running (job : Job) (asker : Endpoint)
  /-- The command of a job failed. -/
  | runFailed (job : Job) (reason : String)
  /-- A job could not be done. -/
  | jobFailed (job : Job) (reason : String)
  /-- The reply of a job is dropped because the worker has stopped. -/
  | replyDropped (job : Job)
  /-- The reply of a job went out. -/
  | replied (job : Job)
  /-- A datagram could not be sent. -/
  | sendFailed (tag : Tag) (target : Endpoint) (reason : String)
  deriving Repr, DecidableEq

namespace Event

/-- The level of an event. -/
def level : Event -> Log.Level
  | .registering .. | .acknowledged | .ready _ | .stopped _ | .timeAsked _
  | .running .. | .replied _ => .info
  | .unanswered | .refused _ | .relayError .. | .statusReported _ | .runFailed ..
  | .sendFailed .. => .warn
  | .jobFailed .. => .error
  | .unreadable .. | .ignored .. | .heartbeatSent | .replyDropped _ => .debug

/-- The wording of an event. -/
def wording : Event -> String
  | .registering relay id => s!"Registering with relay {relay} as \"{id}\""
  | .acknowledged => "Registration acknowledged"
  | .unanswered => "No registration acknowledgment received; continuing unacknowledged"
  | .refused status => s!"Registration refused ({status}); continuing unacknowledged"
  | .ready id => s!"Worker \"{id}\" ready"
  | .stopped id => s!"Worker \"{id}\" stopped"
  | .unreadable refusal sender =>
      s!"Dropping {refusal.reason} message \"{refusal.tagText}\" from {sender}"
  | .timeAsked sender => s!"{(Tag.request .time).text} from {sender}"
  | .relayError code detail => s!"Relay error {code}: {detail}"
  | .ignored tag sender => s!"Ignoring {tag.text} from {sender}"
  | .heartbeatSent => "Heartbeat sent"
  | .statusReported status => s!"Relay reported registration status {status}"
  | .running job asker => s!"Running {job.kind.name} job for {asker}"
  | .runFailed job reason => s!"{job.title} failed: {reason}"
  | .jobFailed job reason => s!"{job.kind.name} job failed: {reason}"
  | .replyDropped job => s!"Dropping {job.kind.name} reply: worker stopped"
  | .replied job => s!"Sent {(Tag.reply job.kind).text}"
  | .sendFailed tag target reason => s!"Failed to send {tag.text} to {target}: {reason}"

/-- The log line of an event. -/
def line (event : Event) : Log.Line :=
  ⟨event.level, "[relay:worker] " ++ event.wording⟩

end Event
end Worker
end CameraFleet
