import CameraFleet.Broadcast
import CameraFleet.Calendar
import CameraFleet.Outcome

/-!
# Payloads of a worker's replies

What a command left behind becomes the payload of a reply. A listing is sent as
it is; a capture or an upload is sent as an outcome. Pictures and uploads are
named after the time at which their job began.
-/

namespace CameraFleet
namespace Worker

/-- What a command left behind. -/
structure RunResult where
  /-- The exit code; none if the command never ran or was killed. -/
  exitCode : Option Int
  /-- What the command printed, to its output and then to its error output. -/
  output : String
  /-- Why the command could not run to its end. -/
  error : Option String := none
  /-- Whether the output was cut. -/
  truncated : Bool := false
  deriving Repr, DecidableEq

namespace RunResult

/-- The exit code as it is written. -/
def exitText (result : RunResult) : String :=
  match result.exitCode with
  | some code => toString code
  | none => "null"

/-- Whether the command ran to its end and succeeded. -/
def Succeeded (result : RunResult) : Prop :=
  result.error = none ∧ result.exitCode = some 0

instance (result : RunResult) : Decidable result.Succeeded := by
  unfold Succeeded
  infer_instance

end RunResult

/-- The file of a picture taken at an instant. -/
def pictureName (instant : Option Int) : String :=
  Calendar.compactTime instant ++ ".png"

/-- The first characters of a text. -/
def leading (count : Nat) (text : String) : String :=
  String.ofList (text.toList.take count)

/-- A text without its first characters. -/
def trailing (count : Nat) (text : String) : String :=
  String.ofList (text.toList.drop count)

/--
Where an upload at an instant goes: a directory for its day and in it one for
its minute. The parts are cut out of the compact form at fixed places.
-/
def uploadTarget (bucket : String) (instant : Option Int) : String :=
  let parts := Calendar.parts instant
  let day := leading 4 parts.compactDate ++ "-" ++ trailing 4 parts.compactDate
  s!"s3://{bucket}/{day}-scan/{day}-{leading 4 parts.compactTime}/"

/-- The payload of a listing; only a command that could not run is reported as an error. -/
def listingPayload (result : RunResult) : String :=
  match result.error with
  | some reason =>
      if result.truncated then result.output
      else
        { ok := false, detail := "Failed to execute listing command: " ++ reason : Outcome }.text
  | none => result.output

/-- The outcome of a run, in the words of its purpose. -/
def outcome
    (result : RunResult)
    (cannotRun failed done : String) : Outcome :=
  match result.error with
  | some reason => { ok := false, detail := cannotRun ++ reason, output := result.output }
  | none =>
      if result.exitCode = some 0 then
        { ok := true, detail := done, output := result.output }
      else
        { ok := false
          detail := failed ++ " (exit code " ++ result.exitText ++ ")"
          output := result.output }

/-- The outcome of a capture into a file. -/
def captureOutcome (result : RunResult) (file : String) : Outcome :=
  outcome result "Failed to execute camera command: " "Camera capture failed"
    ("Image saved as " ++ file)

/-- The payload of a capture. -/
def capturePayload (result : RunResult) (file : String) : String :=
  (captureOutcome result file).text

/-- Whether a text occurs in another. -/
def occursIn (part : List Char) : List Char -> Bool
  | [] => part.isEmpty
  | c :: rest => part.isPrefixOf (c :: rest) || occursIn part rest

/-- The number of files that an upload command says it uploaded, one a line. -/
def countUploads (output : String) : Nat :=
  (output.splitOn "\n").countP fun line => occursIn "upload:".toList line.toList

/-- The outcome of an upload to a directory. -/
def uploadOutcome (result : RunResult) (target : String) : Outcome :=
  outcome result "Failed to execute S3 upload command: " "S3 upload failed"
    s!"Uploaded {countUploads result.output} files to {target}"

/-- The payload of an upload. -/
def uploadPayload (result : RunResult) (target : String) : String :=
  (uploadOutcome result target).text

end Worker
end CameraFleet
