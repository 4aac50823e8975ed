import CameraFleet.Proofs.Coordinator.Steps

/-!
# Sends that fail

A datagram that cannot be sent costs one warning. The coordinator goes on as if
it had been sent, and every other datagram is sent as before.
-/

namespace CameraFleet
namespace Relay
namespace Coordinator

/-- What the inputs of a run lead to, one after the other, if every message gets out. -/
def resultsOf (coordinator : Coordinator) : List Input -> List Result
  | [] => []
  | input :: inputs =>
      coordinator.take input :: (coordinator.take input).coordinator.resultsOf inputs

/--
The steps of a run in which sends may fail, each with the coordinator after it
and with what it does. The fate of a message is told by the number of its step
and by its place among the messages of the step; a step begins with what the
failures of the step before have left.
-/
def runWith
    (fate : Nat -> Nat -> Fate)
    (number : Nat)
    (coordinator : Coordinator) : List Input -> List (Coordinator × List Action)
  | [] => []
  | input :: inputs =>
      let step := (coordinator.take input).perform (fate number)
      step :: runWith fate (number + 1) step.1 inputs

/-- The datagrams that get out, of messages whose first one has a place. -/
def sentOf
    (coordinator : Coordinator)
    (fate : Nat -> Fate)
    (place : Nat)
    (out : List Outbound) : List Action :=
  ((out.zipIdx place).filter fun entry => (fate entry.2).isNone).map fun entry =>
    .send entry.1.target (Wire.encode entry.1.message coordinator.config.maxMessageBytes)

/-- The warnings about the messages that do not get out, one for each. -/
def warningsOf
    (fate : Nat -> Fate)
    (place : Nat)
    (out : List Outbound) : List Action :=
  (out.zipIdx place).filterMap fun entry => (fate entry.2).map fun reason =>
    .report (.sendFailed entry.1.message.tag entry.1.target reason)

/-- Trying messages sends those that get out, and changes nothing. -/
theorem forEach_attempt
    (coordinator : Coordinator)
    (fate : Nat -> Fate)
    (place : Nat)
    (out : List Outbound) :
    forEach attempt fate place coordinator out =
      (coordinator, coordinator.sentOf fate place out) := by
  induction out generalizing place with
  | nil => rfl
  | cons first rest ih =>
      cases known : fate place with
      | none => simp [forEach, attempt, known, ih, sentOf, datagram]
      | some reason => simp [forEach, attempt, known, ih, sentOf]

/-- Noting fates logs the failures, and changes nothing. -/
theorem forEach_note
    (coordinator : Coordinator)
    (fate : Nat -> Fate)
    (place : Nat)
    (out : List Outbound) :
    forEach note fate place coordinator out = (coordinator, warningsOf fate place out) := by
  induction out generalizing place with
  | nil => rfl
  | cons first rest ih =>
      cases known : fate place with
      | none => simp [forEach, note, known, ih, warningsOf]
      | some reason => simp [forEach, note, known, ih, warningsOf, sendFailure]

/-- What a step does: its events, the messages that get out, and the warnings. -/
theorem perform_eq (result : Result) (fate : Nat -> Fate) :
    result.perform fate =
      (result.coordinator,
        result.events.map .report ++ result.coordinator.sentOf fate 0 result.out ++
          warningsOf fate 0 result.out) := by
  simp only [Result.perform, forEach_attempt, forEach_note]

/-- If nothing fails, every message gets out, -/
theorem sentOf_none (coordinator : Coordinator) (place : Nat) (out : List Outbound) :
    coordinator.sentOf (fun _ => none) place out =
      out.map fun message =>
        .send message.target (Wire.encode message.message coordinator.config.maxMessageBytes) := by
  induction out generalizing place with
  | nil => rfl
  | cons first rest ih => simpa [sentOf] using ih (place + 1)

/-- and there is no warning. -/
theorem warningsOf_none (place : Nat) (out : List Outbound) :
    warningsOf (fun _ => none) place out = [] := by
  simp [warningsOf]

/-- The steps of a run, whatever fails: the states are those of the results, which are not
told of any failure. -/
theorem runWith_eq
    (fate : Nat -> Nat -> Fate)
    (number : Nat)
    (coordinator : Coordinator)
    (inputs : List Input) :
    runWith fate number coordinator inputs =
      ((coordinator.resultsOf inputs).zipIdx number).map fun entry =>
        (entry.1.coordinator,
          entry.1.events.map .report ++
            entry.1.coordinator.sentOf (fate entry.2) 0 entry.1.out ++
            warningsOf (fate entry.2) 0 entry.1.out) := by
  induction inputs generalizing number coordinator with
  | nil => rfl
  | cons input inputs ih =>
      simp only [runWith, resultsOf, List.zipIdx_cons, List.map_cons, perform_eq, ih]

/-- What is made of the elements alone does not depend on their places. -/
theorem map_fst_zipIdx {α β : Type} (make : α -> β) (list : List α) (first : Nat) :
    ((list.zipIdx first).map fun entry => make entry.1) = list.map make := by
  rw [← Function.comp_def make Prod.fst, ← List.map_map, List.zipIdx_map_fst]

/--
Whichever sends of a run fail, each step leaves the coordinator, its registry,
session and timer included, as in the run in which none fails. There it reports
its events and sends every message; here it reports the same events, sends the
same datagrams to the same endpoints in the same order except for those that
fail, and ends with one warning for each of these.
-/
theorem failures_stay_local
    (coordinator : Coordinator)
    (inputs : List Input)
    (fate : Nat -> Nat -> Fate)
    (number : Nat) :
    (runWith fate number coordinator inputs).map (·.1) =
      (runWith (fun _ _ => none) number coordinator inputs).map (·.1) ∧
    (runWith (fun _ _ => none) number coordinator inputs).map (·.2) =
      (coordinator.resultsOf inputs).map (fun result =>
        result.events.map .report ++ result.out.map fun out =>
          .send out.target (Wire.encode out.message result.coordinator.config.maxMessageBytes)) ∧
    (runWith fate number coordinator inputs).map (·.2) =
      ((coordinator.resultsOf inputs).zipIdx number).map (fun entry =>
        entry.1.events.map .report ++
          entry.1.coordinator.sentOf (fate entry.2) 0 entry.1.out ++
          warningsOf (fate entry.2) 0 entry.1.out) ∧
    ∀ (out : Outbound) (reason : String),
      (Event.sendFailed out.message.tag out.target reason).line =
        ⟨.warn, "[relay:coordinator] " ++
          s!"Failed to send {out.message.tag.text} to {out.target}: {reason}"⟩ := by
  refine ⟨?_, ?_, ?_, fun out reason => rfl⟩
  · simp only [runWith_eq, List.map_map, Function.comp_def]
  · simp only [runWith_eq, List.map_map, Function.comp_def, sentOf_none, warningsOf_none,
      List.append_nil]
    exact map_fst_zipIdx (fun result : Result =>
      result.events.map Action.report ++ result.out.map fun out =>
        .send out.target (Wire.encode out.message result.coordinator.config.maxMessageBytes)) _ _
  · simp only [runWith_eq, List.map_map, Function.comp_def]

end Coordinator
end Relay
end CameraFleet
