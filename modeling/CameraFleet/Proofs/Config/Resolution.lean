import CameraFleet.Config.Resolve
import CameraFleet.Config.Written
import CameraFleet.Proofs.Config.Numbers

/-!
# Resolved configurations

Whatever is read, the resolved configuration is within its bounds, and resolving
it again changes nothing. Each field is decided by its own entry.
-/

namespace CameraFleet
namespace Config

open Number

/-! ## Numbers -/

/-- A number that can stand in a field, and is read back from there. -/
def Readable (n : Nat) : Prop :=
  0 < n ∧ Exact n

theorem readable_of_lt {n : Nat} (positive : 0 < n) (small : n < 2 ^ 53) : Readable n :=
  ⟨positive, exact_of_lt small⟩

/-- What is read in a field can be read again. -/
theorem readable_of_positive? {value : Json} {n : Nat} (read : positive? value = some n) :
    Readable n := by
  obtain ⟨k, integer, positive⟩ := Option.bind_eq_some_iff.mp read
  split at positive
  · rename_i more
    obtain rfl := Option.some.inj positive
    cases value with
    | number decimal =>
        have same : ((k.toNat : Nat) : Int) = k := Int.toNat_of_nonneg (by omega)
        have read : decimal.toInt? = some ((k.toNat : Nat) : Int) := same ▸ integer
        exact ⟨by omega, exact_of_toInt? read⟩
    | _ => cases integer
  · cases positive

/-- A number that is written is read back. -/
theorem positive?_ofNat {n : Nat} (readable : Readable n) : positive? (.ofNat n) = some n := by
  have read : (Json.ofNat n).int? = some (n : Int) := toInt?_of_exact readable.1 readable.2
  rw [positive?, read, Option.bind_some, if_pos (by have := readable.1; omega), Int.toNat_natCast]

theorem readable_positiveField
    (object : Json)
    (name : String)
    {fallback : Nat}
    (usual : Readable fallback) :
    Readable (positiveField object name fallback) := by
  unfold positiveField
  cases read : (object.member? name).bind positive? with
  | none => exact usual
  | some n =>
      obtain ⟨value, _, positive⟩ := Option.bind_eq_some_iff.mp read
      exact readable_of_positive? positive

theorem positiveField_of_member
    {object : Json}
    {name : String}
    {n : Nat}
    (member : object.member? name = some (.ofNat n))
    (readable : Readable n)
    (fallback : Nat) :
    positiveField object name fallback = n := by
  rw [positiveField, member, Option.bind_some, positive?_ofNat readable, Option.getD_some]

/-! ## Texts and commands -/

theorem wordField?_ne_empty
    {object : Json}
    {name word : String}
    (read : wordField? object name = some word) :
    word ≠ "" := by
  have filled := (Option.filter_eq_some_iff.mp read).2
  rintro rfl
  simp at filled

theorem wordField?_of_member
    {object : Json}
    {name word : String}
    (member : object.member? name = some (.string word))
    (filled : word ≠ "") :
    wordField? object name = some word := by
  rw [wordField?, textField?, member]
  simpa [Json.text?, Option.filter] using filled

/-- A command that can be run. -/
theorem commandField_program
    (object : Json)
    (name : String)
    {fallback : Command}
    (usual : fallback.program ≠ "") :
    (commandField object name fallback).program ≠ "" := by
  unfold commandField
  dsimp only
  split
  · exact usual
  · rename_i program read
    exact wordField?_ne_empty read

/-- A command that is written is read back. -/
theorem commandField_of_member
    {object : Json}
    {name : String}
    {command : Command}
    (member : object.member? name = some command.toJson)
    (program : command.program ≠ "")
    (fallback : Command) :
    commandField object name fallback = command := by
  have entry : section? object name = command.toJson := by rw [section?, member, Option.getD_some]
  have read : wordField? command.toJson "command" = some command.program :=
    wordField?_of_member
      (by cases known : command.cwd <;> simp [Command.toJson, Json.member?, known]) program
  have args : command.toJson.member? "args" = some (.ofTexts command.args) := by
    cases known : command.cwd <;> simp [Command.toJson, Json.member?, known]
  have cwd : textField? command.toJson "cwd" = command.cwd := by
    cases known : command.cwd <;> simp [Command.toJson, Json.member?, textField?, Json.text?, known]
  unfold commandField
  dsimp only
  rw [entry, read, args, cwd]
  simp [Json.ofTexts, Json.items?, Json.text?, List.filterMap_map, Function.comp_def]

/-! ## Resolving -/

/-- A configuration within its bounds, with numbers that can be read back. -/
structure Resolved (config : Config) : Prop where
  port : 1 ≤ config.port ∧ config.port ≤ 65535
  maxMessageBytes : 64 ≤ config.maxMessageBytes
  numbers : ∀ n ∈ [config.maxDevices, config.maxMessageBytes, config.timing.response,
    config.timing.heartbeat, config.timing.liveness, config.timing.sweep, config.timing.ack,
    config.collaborators.timeout], Readable n
  programs : ∀ command ∈ [config.collaborators.listing, config.collaborators.capture,
    config.collaborators.upload], command.program ≠ ""
  bucket : config.bucket ≠ ""

/-- What is resolved is within its bounds. -/
theorem resolved_resolve (raw : Json) : Resolved (resolve raw) where
  port := by
    simp only [resolve]
    cases read : portField? raw "port" with
    | none => decide
    | some port =>
        obtain ⟨positive, below⟩ := Option.filter_eq_some_iff.mp read
        obtain ⟨value, _, positive⟩ := Option.bind_eq_some_iff.mp positive
        have least := (readable_of_positive? positive).1
        have most : port < 65536 := of_decide_eq_true below
        simp only [Option.getD_some]
        omega
  maxMessageBytes := Nat.le_max_left _ _
  numbers := by
    have small {n : Nat} (positive : 0 < n) (small : n < 1000000) : Readable n :=
      readable_of_lt positive (small.trans (by norm_num))
    have field (object : Json) (name : String) {fallback : Nat} (positive : 0 < fallback)
        (less : fallback < 1000000) : Readable (positiveField object name fallback) :=
      readable_positiveField object name (small positive less)
    intro n member
    simp only [List.mem_cons, List.not_mem_nil, or_false] at member
    rcases member with rfl | rfl | rfl | rfl | rfl | rfl | rfl | rfl
    · exact field _ _ (by decide) (by decide)
    · rcases Nat.le_total leastMessageBytes
        (positiveField raw "maxMessageBytes" (maxMessageBytes {})) with more | less
      · simp only [resolve, Nat.max_eq_right more]
        exact field _ _ (by decide) (by decide)
      · simp only [resolve, Nat.max_eq_left less]
        exact small (by decide) (by decide)
    all_goals exact field _ _ (by decide) (by decide)
  programs := by
    intro command member
    simp only [List.mem_cons, List.not_mem_nil, or_false] at member
    rcases member with rfl | rfl | rfl <;> exact commandField_program _ _ (by decide)
  bucket := by
    simp only [resolve]
    cases read : wordField? (section? raw "upload") "bucket" with
    | none => decide
    | some word => exact wordField?_ne_empty read

/-- The periods are read back. -/
theorem resolveTiming_toJson
    {timing : Timing}
    (readable : ∀ n ∈ [timing.response, timing.heartbeat, timing.liveness, timing.sweep,
      timing.ack], Readable n) :
    resolveTiming timing.toJson = timing := by
  simp only [List.mem_cons, List.not_mem_nil, or_false, forall_eq_or_imp, forall_eq] at readable
  obtain ⟨response, heartbeat, liveness, sweep, ack⟩ := readable
  unfold resolveTiming
  dsimp only
  rw [positiveField_of_member (by simp [Timing.toJson, Json.member?]) response,
    positiveField_of_member (by simp [Timing.toJson, Json.member?]) heartbeat,
    positiveField_of_member (by simp [Timing.toJson, Json.member?]) liveness,
    positiveField_of_member (by simp [Timing.toJson, Json.member?]) sweep,
    positiveField_of_member (by simp [Timing.toJson, Json.member?]) ack]

/-- The commands are read back. -/
theorem resolveCollaborators_toJson
    {collaborators : Collaborators}
    (programs : ∀ command ∈ [collaborators.listing, collaborators.capture, collaborators.upload],
      command.program ≠ "")
    (timeout : Readable collaborators.timeout) :
    resolveCollaborators collaborators.toJson = collaborators := by
  simp only [List.mem_cons, List.not_mem_nil, or_false, forall_eq_or_imp, forall_eq] at programs
  obtain ⟨listing, capture, upload⟩ := programs
  unfold resolveCollaborators
  dsimp only
  rw [commandField_of_member (by simp [Collaborators.toJson, Json.member?]) listing,
    commandField_of_member (by simp [Collaborators.toJson, Json.member?]) capture,
    commandField_of_member (by simp [Collaborators.toJson, Json.member?]) upload,
    positiveField_of_member (by simp [Collaborators.toJson, Json.member?]) timeout]

/-- A configuration within its bounds is read back as it was written. -/
theorem resolve_toJson {config : Config} (resolved : Resolved config) :
    resolve config.toJson = config := by
  obtain ⟨port, maxMessageBytes, numbers, programs, bucket⟩ := resolved
  simp only [List.mem_cons, List.not_mem_nil, or_false, forall_eq_or_imp, forall_eq] at numbers
  obtain ⟨devices, bytes, response, heartbeat, liveness, sweep, ack, timeout⟩ := numbers
  have host : textField? config.toJson "host" = some config.host := by
    simp [textField?, toJson, Json.member?, Json.text?]
  have portRead : portField? config.toJson "port" = some config.port := by
    have member : config.toJson.member? "port" = some (.ofNat config.port) := by
      simp [toJson, Json.member?]
    have readable : Readable config.port := readable_of_lt (by omega) (by norm_num; omega)
    have below : decide (config.port < portLimit) = true :=
      decide_eq_true (show config.port < 65536 by omega)
    rw [portField?, member, Option.bind_some, positive?_ofNat readable]
    simp only [Option.filter, below, if_true]
  have timing : section? config.toJson "timing" = config.timing.toJson := by
    simp [section?, toJson, Json.member?]
  have collaborators : section? config.toJson "collaborators" = config.collaborators.toJson := by
    simp [section?, toJson, Json.member?]
  have broadcasts : policyField config.toJson "broadcastPolicy" = config.broadcastPolicy := by
    have read : textField? config.toJson "broadcastPolicy" = some config.broadcastPolicy.name := by
      simp [textField?, toJson, Json.member?, Json.text?]
    rw [policyField, read]
    cases config.broadcastPolicy <;> rfl
  have strangers : strangerField config.toJson "unknownHeartbeat" = config.unknownHeartbeat := by
    have read : textField? config.toJson "unknownHeartbeat" =
        some config.unknownHeartbeat.name := by
      simp [textField?, toJson, Json.member?, Json.text?]
    rw [strangerField, read]
    cases config.unknownHeartbeat <;> rfl
  have upload : wordField? (section? config.toJson "upload") "bucket" = some config.bucket :=
    wordField?_of_member (by simp [section?, toJson, Json.member?]) bucket
  have level : (textField? config.toJson "logLevel").bind Log.Level.ofName? =
      some config.logLevel := by
    have read : textField? config.toJson "logLevel" = some config.logLevel.name := by
      simp [textField?, toJson, Json.member?, Json.text?]
    rw [read, Option.bind_some]
    cases config.logLevel <;> rfl
  unfold resolve
  dsimp only
  rw [host, portRead, positiveField_of_member (by simp [toJson, Json.member?]) devices,
    positiveField_of_member (by simp [toJson, Json.member?]) bytes, timing, collaborators,
    resolveTiming_toJson (by simp [response, heartbeat, liveness, sweep, ack]),
    resolveCollaborators_toJson programs timeout, broadcasts, strangers, upload, level]
  simp only [Option.getD_some]
  rw [Nat.max_eq_right (show leastMessageBytes ≤ config.maxMessageBytes from maxMessageBytes)]

/-! ## Fields -/

/-- A field that is read by itself; a command counts as one. -/
inductive Field
  | host | port | maxDevices | maxMessageBytes
  | response | heartbeat | liveness | sweep | ack
  | broadcastPolicy | unknownHeartbeat
  | listing | capture | upload | timeout
  | bucket | logLevel

namespace Field

/-- What a field holds. -/
def Value : Field -> Type
  | host | bucket => String
  | port | maxDevices | maxMessageBytes => Nat
  | response | heartbeat | liveness | sweep | ack | timeout => Nat
  | broadcastPolicy => Policy
  | unknownHeartbeat => StrangerPolicy
  | listing | capture | upload => Command
  | logLevel => Log.Level

/-- The value of a field. -/
def value (config : Config) : (field : Field) -> field.Value
  | host => config.host
  | port => config.port
  | maxDevices => config.maxDevices
  | maxMessageBytes => config.maxMessageBytes
  | response => config.timing.response
  | heartbeat => config.timing.heartbeat
  | liveness => config.timing.liveness
  | sweep => config.timing.sweep
  | ack => config.timing.ack
  | broadcastPolicy => config.broadcastPolicy
  | unknownHeartbeat => config.unknownHeartbeat
  | listing => config.collaborators.listing
  | capture => config.collaborators.capture
  | upload => config.collaborators.upload
  | timeout => config.collaborators.timeout
  | bucket => config.bucket
  | logLevel => config.logLevel

/-- The part of a JSON value in which a field stands, if not the whole, and its name there. -/
def path : Field -> Option String × String
  | host => (none, "host")
  | port => (none, "port")
  | maxDevices => (none, "maxDevices")
  | maxMessageBytes => (none, "maxMessageBytes")
  | response => (some "timing", "responseTimeoutSec")
  | heartbeat => (some "timing", "heartbeatIntervalSec")
  | liveness => (some "timing", "livenessTimeoutSec")
  | sweep => (some "timing", "sweepIntervalSec")
  | ack => (some "timing", "registrationAckTimeoutSec")
  | broadcastPolicy => (none, "broadcastPolicy")
  | unknownHeartbeat => (none, "unknownHeartbeat")
  | listing => (some "collaborators", "listing")
  | capture => (some "collaborators", "capture")
  | upload => (some "collaborators", "upload")
  | timeout => (some "collaborators", "timeoutSec")
  | bucket => (some "upload", "bucket")
  | logLevel => (none, "logLevel")

/-- The entry of a field in a JSON value. -/
def entry (field : Field) (raw : Json) : Option Json :=
  match field.path with
  | (none, name) => raw.member? name
  | (some part, name) => (raw.member? part).bind (Json.member? · name)

end Field

/-- A field of a part of a JSON value; where there is no part, there is no field. -/
theorem member?_section? (raw : Json) (part name : String) :
    (section? raw part).member? name = (raw.member? part).bind (Json.member? · name) := by
  unfold section?
  cases raw.member? part with
  | none => rfl
  | some value => rfl

section Congruence

variable {object object' : Json} {name : String}
  (same : object.member? name = object'.member? name)

include same

theorem textField?_congr : textField? object name = textField? object' name := by
  rw [textField?, textField?, same]

theorem positiveField_congr (fallback : Nat) :
    positiveField object name fallback = positiveField object' name fallback := by
  rw [positiveField, positiveField, same]

theorem portField?_congr : portField? object name = portField? object' name := by
  rw [portField?, portField?, same]

theorem commandField_congr (fallback : Command) :
    commandField object name fallback = commandField object' name fallback := by
  have entry : section? object name = section? object' name := by rw [section?, section?, same]
  rw [commandField, commandField, entry]

end Congruence

/-- Each field is decided by its own entry. -/
theorem value_resolve
    {raw raw' : Json}
    (field : Field)
    (same : field.entry raw = field.entry raw') :
    field.value (resolve raw) = field.value (resolve raw') := by
  cases field <;> simp only [Field.entry, Field.path, ← member?_section?] at same
  case host => exact congrArg (Option.getD · _) (textField?_congr same)
  case port => exact congrArg (Option.getD · _) (portField?_congr same)
  case maxMessageBytes => exact congrArg (max leastMessageBytes) (positiveField_congr same _)
  case broadcastPolicy =>
    exact congrArg (fun text => if text = some Policy.replace.name then Policy.replace else .reject)
      (textField?_congr same)
  case unknownHeartbeat =>
    exact congrArg (fun text =>
      if text = some StrangerPolicy.ignore.name then StrangerPolicy.ignore else .register)
      (textField?_congr same)
  case listing | capture | upload => exact commandField_congr same _
  case bucket =>
    exact congrArg (fun text => (Option.filter (!·.isEmpty) text).getD _) (textField?_congr same)
  case logLevel =>
    exact congrArg (fun text => (Option.bind text Log.Level.ofName?).getD _) (textField?_congr same)
  all_goals exact positiveField_congr same _

/--
Whatever JSON value is resolved, the configuration is within its bounds, and
resolving it again changes nothing. Two JSON values with the same entry in a
field lead to the same value of that field, whatever else they hold.
-/
theorem resolve_laws (raw : Json) :
    (1 ≤ (resolve raw).port ∧ (resolve raw).port ≤ 65535 ∧
      64 ≤ (resolve raw).maxMessageBytes ∧ 0 < (resolve raw).maxDevices ∧
      0 < (resolve raw).timing.response ∧ 0 < (resolve raw).timing.heartbeat ∧
      0 < (resolve raw).timing.liveness ∧ 0 < (resolve raw).timing.sweep ∧
      0 < (resolve raw).timing.ack ∧ 0 < (resolve raw).collaborators.timeout ∧
      (resolve raw).collaborators.listing.program ≠ "" ∧
      (resolve raw).collaborators.capture.program ≠ "" ∧
      (resolve raw).collaborators.upload.program ≠ "" ∧
      (resolve raw).bucket ≠ "") ∧
    resolve (resolve raw).toJson = resolve raw ∧
    ∀ (raw' : Json) (field : Field), field.entry raw = field.entry raw' ->
      field.value (resolve raw) = field.value (resolve raw') := by
  have resolved := resolved_resolve raw
  refine ⟨?_, resolve_toJson resolved, fun raw' field => value_resolve field⟩
  obtain ⟨port, bytes, numbers, programs, bucket⟩ := resolved
  simp only [List.mem_cons, List.not_mem_nil, or_false, forall_eq_or_imp, forall_eq, Readable]
    at numbers programs
  tauto

/-- A value with a port that cannot be used and periods of several kinds. -/
def mixed : Json :=
  .object
    [("port", .number { digits := 65536, exponent := 0 }),
      ("timing", .object
        [("heartbeatIntervalSec", .number { digits := 150, exponent := -1 }),
          ("sweepIntervalSec", .number { digits := 5, exponent := -1 }),
          ("livenessTimeoutSec", .string "90")])]

/-- A value with the same period between heartbeats, and a port. -/
def other : Json :=
  .object
    [("timing", .object [("heartbeatIntervalSec", .number { digits := 150, exponent := -1 })]),
      ("port", .number { digits := 9000, exponent := 0 })]

/-- One field agrees, another does not; both values are resolved for good. -/
theorem resolve_laws_mixed :
    Field.heartbeat.entry mixed = Field.heartbeat.entry other ∧
    Field.heartbeat.value (resolve mixed) = Field.heartbeat.value (resolve other) ∧
    (resolve mixed).timing.heartbeat = 15 ∧ (resolve mixed).timing.sweep = 30 ∧
    (resolve mixed).port = 8080 ∧ (resolve other).port = 9000 ∧
    resolve (resolve mixed).toJson = resolve mixed := by
  have same : Field.heartbeat.entry mixed = Field.heartbeat.entry other := by
    simp [Field.entry, Field.path, mixed, other, Json.member?]
  obtain ⟨_, again, agrees⟩ := resolve_laws mixed
  exact ⟨same, agrees other .heartbeat same, by decide +kernel, by decide +kernel,
    by decide +kernel, by decide +kernel, again⟩

end Config
end CameraFleet
