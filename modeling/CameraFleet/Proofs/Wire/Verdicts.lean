import CameraFleet.Controller
import CameraFleet.Proofs.Verdict
import CameraFleet.Proofs.Wire.Transit
import CameraFleet.Worker.Payload

/-!
# Verdicts on their way

The reply of a capture or an upload goes through three buffers. Wherever it is
cut, its header and its verdict come before the cut, so that a controller shows
the verdict that the worker gave.
-/

namespace CameraFleet

namespace Utf8

/-- What was read before does not change how bytes are read. -/
theorem foldl_push_append (bytes : List UInt8) (before : List Char) (reading : Reading) :
    bytes.foldl Reading.push { reading with reversed := reading.reversed ++ before } =
      { bytes.foldl Reading.push reading with
        reversed := (bytes.foldl Reading.push reading).reversed ++ before } := by
  induction bytes generalizing reading with
  | nil => rfl
  | cons byte bytes ih =>
      rw [List.foldl_cons, List.foldl_cons, ← ih]
      simp [Reading.push, List.append_assoc]

/-- Whole characters at the beginning are read as they are, whatever comes after them. -/
theorem decode_encode_append (text : List Char) (bytes : List UInt8) :
    decode (encode text ++ bytes) = text ++ decode bytes := by
  have apart := foldl_push_append bytes text.reverse {}
  have same : (⟨text.reverse ++ [], none⟩ : Reading) =
      { ({} : Reading) with reversed := ({} : Reading).reversed ++ text.reverse } := by simp
  unfold decode
  rw [List.foldl_append, foldl_push_encode, same, apart]
  simp only [Reading.text]
  split <;> simp_all

end Utf8

namespace Wire

open Utf8

theorem not_zero_mem_encode {text : List Char} (clean : '\x00' ∉ text) :
    ∀ byte ∈ Utf8.encode text, (byte == 0) = false := by
  induction text with
  | nil => simp
  | cons c text ih =>
      obtain ⟨proper, clean⟩ := not_or.mp (mt List.mem_cons.mpr clean)
      intro byte member
      rw [encode_cons] at member
      rcases List.mem_append.mp member with first | later
      · simpa using not_zero_mem_encodeChar (Ne.symm proper) byte first
      · exact ih clean byte later

/-- Nothing of a beginning without a zero is cut off if there is room for it. -/
theorem size_le_readLimit
    {head : List Char}
    (clean : '\x00' ∉ head)
    {maxBytes : Int}
    (room : size head < maxBytes)
    (bytes : Bytes) :
    (size head : Int) ≤ readLimit (Utf8.encode head ++ bytes) maxBytes := by
  have none : (Utf8.encode head).findIdx? (· == 0) = none :=
    List.findIdx?_eq_none_iff.mpr (not_zero_mem_encode clean)
  have limit : (size head : Int) ≤
      min ((Utf8.encode head ++ bytes).length : Int) (maxBytes - 1) := by
    rw [List.length_append, length_encode]
    omega
  unfold readLimit
  rw [List.findIdx?_append, none, Option.none_or, length_encode]
  cases bytes.findIdx? (· == 0) with
  | none => exact limit
  | some place =>
      simp only [Option.map_some]
      split
      · omega
      · exact limit

/-- What fits into a buffer before any zero byte is read as it is. -/
theorem decode_begins
    {head : List Char}
    (clean : '\x00' ∉ head)
    {maxBytes : Int}
    (room : size head < maxBytes)
    (bytes : Bytes) :
    ∃ rest, (decode (Utf8.encode head ++ bytes) maxBytes).toList = head ++ rest := by
  have limit := size_le_readLimit clean room bytes
  unfold decode
  generalize readLimit (Utf8.encode head ++ bytes) maxBytes = stop at limit ⊢
  have whole : (Utf8.encode head).take stop.toNat = Utf8.encode head :=
    List.take_of_length_le (by rw [length_encode]; omega)
  refine ⟨Utf8.decode (bytes.take (stop.toNat - size head)), ?_⟩
  rw [takeUntil, if_pos (by omega), List.take_append, whole, length_encode, Utf8.toString,
    decode_encode_append, String.toList_ofList]

/-- A mark ends with a colon. -/
theorem getLast?_mark (ok : Bool) : (Outcome.mark ok).getLast? = some ':' := by
  cases ok <;> decide

theorem size_mark_le (ok : Bool) : size (Outcome.mark ok) ≤ 8 := by
  cases ok <;> decide

theorem zero_not_mem_mark (ok : Bool) : '\x00' ∉ Outcome.mark ok := by
  cases ok <;> decide

/-- One hop keeps the kind, the id and a short beginning of the payload, whatever else it
loses. -/
theorem receive_encode_beginning
    {sends receives : Int}
    (least : 64 ≤ sends)
    (least' : 64 ≤ receives)
    {kind : Kind}
    {id : String}
    (valid : Device.ValidId id)
    {payload : String}
    {head body : List Char}
    (shape : payload.toList = head ++ body)
    (timed : kind = .time -> head ≠ [])
    (clean : '\x00' ∉ head)
    (short : size head ≤ 8)
    (ends : head.getLast? ≠ some '\n') :
    ∃ (read : String) (rest : List Char),
      receive (encode (.reply kind id payload) sends) receives = .ok (.reply kind id read) ∧
      read.toList = head ++ rest := by
  have header := size_replyHeader_le kind valid
  have whole : '\x00' ∉ replyHeader kind id ++ head := by
    simp [zero_not_mem_replyHeader kind valid, clean]
  have room : size (replyHeader kind id ++ head) < receives := by
    rw [size_append]
    omega
  have colon := getLast?_replyHeader kind id
  obtain ⟨last, lasts, other⟩ :
      ∃ last, (replyHeader kind id ++ head).getLast? = some last ∧ last ≠ '\n' := by
    rw [List.getLast?_append]
    cases found : head.getLast? with
    | none => exact ⟨':', by rw [Option.none_or, colon], by decide⟩
    | some last => exact ⟨last, rfl, fun same => ends (same ▸ found)⟩
  obtain ⟨rest, text⟩ := decode_begins whole room
    (Utf8.encode (fit (payloadRoom kind id sends - size head) body ++ ['\n']))
  refine ⟨String.ofList (head ++ dropLineBreak rest), dropLineBreak rest, ?_, by simp⟩
  rw [encode_eq, keptText_reply least kind valid, shape,
    fit_append (by rw [payloadRoom]; omega)]
  have bytes : Utf8.encode (replyHeader kind id ++ (head ++
      fit (payloadRoom kind id sends - size head) body) ++ ['\n']) =
      Utf8.encode (replyHeader kind id ++ head) ++
        Utf8.encode (fit (payloadRoom kind id sends - size head) body ++ ['\n']) := by
    simp only [encode_append, List.append_assoc]
  rw [bytes, receive, parse_eq, bodyOf, text, dropLineBreak_append lasts other, List.append_assoc,
    readBody_replyHeader valid fun time => by simp [timed time]]

/-- One hop keeps the kind, the id and the verdict. -/
theorem receive_encode_verdict
    {sends receives : Int}
    (least : 64 ≤ sends)
    (least' : 64 ≤ receives)
    {kind : Kind}
    (untimed : kind ≠ .time)
    {id : String}
    (valid : Device.ValidId id)
    {payload : String}
    {ok : Bool}
    {body : List Char}
    (shape : payload.toList = Outcome.mark ok ++ body) :
    ∃ (read : String) (rest : List Char),
      receive (encode (.reply kind id payload) sends) receives = .ok (.reply kind id read) ∧
      read.toList = Outcome.mark ok ++ rest :=
  receive_encode_beginning least least' valid shape (fun time => absurd time untimed)
    (zero_not_mem_mark ok) (size_mark_le ok) (by simp [getLast?_mark])

/-- A run succeeded if it ended with the code 0 and without an error. -/
theorem ok_outcome (result : Worker.RunResult) (cannotRun failed done : String) :
    (Worker.outcome result cannotRun failed done).ok = decide result.Succeeded := by
  obtain ⟨exitCode, output, error, truncated⟩ := result
  unfold Worker.outcome Worker.RunResult.Succeeded
  cases error with
  | some reason => simp
  | none =>
      dsimp only
      split <;> simp_all

/-- An outcome is shown with its verdict. -/
theorem replyText_of_verdict
    {kind : Kind}
    (judged : kind = .capture ∨ kind = .upload)
    {payload : String}
    {ok : Bool}
    {rest : List Char}
    (shape : payload.toList = Outcome.mark ok ++ rest)
    (received : Option Int)
    (id : String) :
    ∃ detail, Display.replyText received kind id payload =
      "[" ++ Calendar.localTime received ++ "] [" ++ id ++ "] " ++ Display.label kind ++ " " ++
        (if ok then "succeeded" else "failed") ++ detail := by
  have parsed := Outcome.parse?_of_toList shape
  have same : (Outcome.ofRest ok rest).ok = ok := rfl
  generalize Outcome.ofRest ok rest = outcome at parsed same
  refine ⟨": " ++ outcome.detail ++
    (if outcome.output.isEmpty then "" else "\n" ++ outcome.output), ?_⟩
  rcases judged with rfl | rfl
  · simp only [Display.replyText, parsed, same]
    refine String.toList_inj.mp ?_
    split <;> simp [ToString.toString]
  · simp only [Display.replyText, parsed, same]
    refine String.toList_inj.mp ?_
    split <;> simp [ToString.toString]

/--
Whatever a capture or an upload left behind, and whatever the sizes of the three
buffers, if they have at least 64 bytes, its reply reaches the controller with
its kind and id, and is shown to have succeeded just if the command did.
-/
theorem verdict_survives
    (id : String)
    (valid : Device.ValidId id)
    (result : Worker.RunResult)
    (file target : String)
    (worker relay controller : Int)
    (leastWorker : 64 ≤ worker)
    (leastRelay : 64 ≤ relay)
    (leastController : 64 ≤ controller)
    (received : Option Int) :
    ∀ reply ∈ [(Kind.capture, Worker.capturePayload result file),
        (Kind.upload, Worker.uploadPayload result target)],
      ∃ (relayed shown detail : String),
        receive (encode (.reply reply.1 id reply.2) worker) relay =
          .ok (.reply reply.1 id relayed) ∧
        receive (encode (.reply reply.1 id relayed) relay) controller =
          .ok (.reply reply.1 id shown) ∧
        (Outcome.parse? shown).map (·.ok) = some (decide result.Succeeded) ∧
        Display.replyText received reply.1 id shown =
          "[" ++ Calendar.localTime received ++ "] [" ++ id ++ "] " ++
            Display.label reply.1 ++ " " ++
            (if result.Succeeded then "succeeded" else "failed") ++ detail := by
  intro reply member
  have either : reply = (.capture, Worker.capturePayload result file) ∨
      reply = (.upload, Worker.uploadPayload result target) := by simpa using member
  have judged : reply.1 = .capture ∨ reply.1 = .upload := by
    rcases either with rfl | rfl
    · exact .inl rfl
    · exact .inr rfl
  have untimed : reply.1 ≠ .time := by
    rcases judged with capture | upload
    · simp [capture]
    · simp [upload]
  obtain ⟨body, shape⟩ : ∃ body, reply.2.toList =
      Outcome.mark (decide result.Succeeded) ++ body := by
    rcases either with rfl | rfl
    · exact ⟨_, ok_outcome result _ _ _ ▸ Outcome.toList_text _⟩
    · exact ⟨_, ok_outcome result _ _ _ ▸ Outcome.toList_text _⟩
  obtain ⟨relayed, rest, first, shape⟩ :=
    receive_encode_verdict leastWorker leastRelay untimed valid shape
  obtain ⟨shown, last, second, shape⟩ :=
    receive_encode_verdict leastRelay leastController untimed valid shape
  obtain ⟨detail, text⟩ := replyText_of_verdict judged shape received id
  refine ⟨relayed, shown, detail, first, second, ?_, ?_⟩
  · rw [Outcome.parse?_of_toList shape]
    rfl
  · rw [text]
    simp

/-- What is left of the report of a camera that failed, after a first hop, -/
theorem relayed_of_failure :
    (receive (encode (.reply .capture "cam-1" (Worker.capturePayload
        { exitCode := some 1, output := "no camera found at the usual place" } "b.png")) 80)
        72).toOption =
      some (.reply .capture "cam-1" "ERROR:Camera capture failed (exit code 1)\nno came") := by
  decide +kernel

/-- and after a second one. -/
theorem shown_of_failure :
    (receive (encode (.reply .capture "cam-1"
        "ERROR:Camera capture failed (exit code 1)\nno came") 72) 64).toOption =
      some (.reply .capture "cam-1" "ERROR:Camera capture failed (exit code 1)") := by
  decide +kernel

theorem eq_ok_of_toOption_eq_some
    {ε α : Type}
    {result : Except ε α}
    {value : α}
    (some' : result.toOption = some value) :
    result = .ok value := by
  cases result with
  | error reason => simp [Except.toOption] at some'
  | ok other => simpa [Except.toOption] using some'

/-- The failure of a camera, with an output that is cut on both hops, is shown as one. -/
theorem verdict_survives_cut :
    receive (encode (.reply .capture "cam-1" (Worker.capturePayload
        { exitCode := some 1, output := "no camera found at the usual place" } "b.png")) 80) 72 =
      .ok (.reply .capture "cam-1" "ERROR:Camera capture failed (exit code 1)\nno came") ∧
    receive (encode (.reply .capture "cam-1"
        "ERROR:Camera capture failed (exit code 1)\nno came") 72) 64 =
      .ok (.reply .capture "cam-1" "ERROR:Camera capture failed (exit code 1)") ∧
    (Outcome.parse? "ERROR:Camera capture failed (exit code 1)").map (·.ok) = some false ∧
    ∃ detail,
      Display.replyText (some 0) .capture "cam-1" "ERROR:Camera capture failed (exit code 1)" =
        "[" ++ Calendar.localTime (some 0) ++ "] [" ++ "cam-1" ++ "] " ++
          Display.label .capture ++ " " ++ "failed" ++ detail := by
  have known := eq_ok_of_toOption_eq_some relayed_of_failure
  have known' := eq_ok_of_toOption_eq_some shown_of_failure
  obtain ⟨relayed, shown, detail, first, second, verdict, text⟩ :=
    verdict_survives "cam-1" (by decide)
      { exitCode := some 1, output := "no camera found at the usual place" } "b.png" "" 80 72 64
      (by decide) (by decide) (by decide) (some 0)
      (.capture, Worker.capturePayload
        { exitCode := some 1, output := "no camera found at the usual place" } "b.png")
      List.mem_cons_self
  dsimp only at first second verdict text
  generalize Worker.capturePayload _ _ = payload at first known ⊢
  generalize "ERROR:Camera capture failed (exit code 1)\nno came" = half at known known' ⊢
  generalize "ERROR:Camera capture failed (exit code 1)" = rest at known' ⊢
  obtain rfl : half = relayed := by simpa [known] using first
  obtain rfl : rest = shown := by simpa [known'] using second
  exact ⟨known, known', verdict, detail, text⟩

end Wire
end CameraFleet
