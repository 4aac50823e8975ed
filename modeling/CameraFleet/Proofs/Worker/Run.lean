import CameraFleet.Worker.Node

/-!
# Runs of a worker

A worker is called and receives datagrams, its timer falls due, and its commands
finish, in any order and with any datagram lost on the way out. A worker that
has been stopped has released its socket, so that nothing gets out of it.
-/

namespace CameraFleet
namespace Worker
namespace Node

open Wire

/-- Something that happens to a worker; a link says whether a datagram gets out. -/
inductive Input
  /-- The worker is started. -/
  | start (now : Int) (link : Link)
  /-- The worker is stopped. -/
  | stop (now : Int) (link : Link)
  /-- A datagram arrives. -/
  | receive (bytes : Bytes) (sender : Endpoint) (now : Int) (link : Link)
  /-- The timer is due. -/
  | fire (now : Int) (link : Link)
  /-- A heartbeat is asked for. -/
  | heartbeat (now : Int) (link : Link)
  /-- Somebody waits until all jobs have finished. -/
  | whenIdle
  /-- The command of a job has finished. -/
  | finish (number : Nat) (result : Except String RunResult) (link : Link)

/-- The link of a worker: nothing gets out of a released socket. -/
def linkOf (node : Node) (link : Link) : Link :=
  if node.stopped then some "socket closed" else link

/-- What happens to a worker, and what it does. -/
def act (node : Node) : Input -> Node × List Action
  | .start now link => node.start now (node.linkOf link)
  | .stop now link => node.stop now (node.linkOf link)
  | .receive bytes sender now link => node.receive bytes sender now (node.linkOf link)
  | .fire now link => node.fire now (node.linkOf link)
  | .heartbeat now link => node.heartbeat now (node.linkOf link)
  | .whenIdle => node.whenIdle
  | .finish number result link => node.finish number result (node.linkOf link)

/-- A worker after what has happened to it. -/
def run (node : Node) (inputs : List Input) : Node :=
  inputs.foldl (fun node input => (node.act input).1) node

@[simp] theorem run_nil (node : Node) : node.run [] = node := rfl

@[simp] theorem run_cons (node : Node) (input : Input) (inputs : List Input) :
    node.run (input :: inputs) = (node.act input).1.run inputs := rfl

/-- What happens may be taken in two parts. -/
theorem run_append (node : Node) (before after : List Input) :
    node.run (before ++ after) = (node.run before).run after := by
  simp [run]

/-! ## What a step leaves alone -/

/-- Only `OK` makes a worker registered, and nothing undoes it. -/
@[simp] theorem noteStatus_registered (node : Node) (status : Option String) :
    (node.noteStatus status).registered = (node.registered || status == some accepted) := by
  unfold noteStatus
  split <;> simp_all

@[simp] theorem noteStatus_config (node : Node) (status : Option String) :
    (node.noteStatus status).config = node.config := by
  unfold noteStatus
  split <;> rfl

@[simp] theorem noteStatus_stopped (node : Node) (status : Option String) :
    (node.noteStatus status).stopped = node.stopped := by
  unfold noteStatus
  split <;> rfl

/-- Beginning with the heartbeats leaves alone who is registered, -/
@[simp] theorem beginBeating_registered (node : Node) (now : Int) :
    (node.beginBeating now).1.registered = node.registered := by
  unfold beginBeating
  split <;> rfl

/-- and the configuration, -/
@[simp] theorem beginBeating_config (node : Node) (now : Int) :
    (node.beginBeating now).1.config = node.config := by
  unfold beginBeating
  split <;> rfl

/-- and whether the worker was stopped. -/
@[simp] theorem beginBeating_stopped (node : Node) (now : Int) :
    (node.beginBeating now).1.stopped = node.stopped := by
  unfold beginBeating
  split <;> rfl

/-- The end of a wait counts an answer like any other. -/
@[simp] theorem settle_registered (node : Node) (status : Option String) (now : Int) :
    (node.settle status now).1.registered = (node.registered || status == some accepted) := by
  simp [settle]

@[simp] theorem settle_config (node : Node) (status : Option String) (now : Int) :
    (node.settle status now).1.config = node.config := by
  simp [settle]

@[simp] theorem settle_stopped (node : Node) (status : Option String) (now : Int) :
    (node.settle status now).1.stopped = node.stopped := by
  simp [settle]

/-- No heartbeat changes whether the worker is registered, -/
theorem beat_registered (node : Node) (now : Int) (link : Link) :
    (node.beat now link).1.registered = node.registered := by
  unfold beat
  split <;> rfl

/-- nor does a start, -/
theorem start_registered (node : Node) (now : Int) (link : Link) :
    (node.start now link).1.registered = node.registered := by
  unfold start
  split
  · rfl
  · split <;> rfl

/-- nor a stop; -/
theorem stop_registered (node : Node) (now : Int) (link : Link) :
    (node.stop now link).1.registered = node.registered := by
  unfold stop
  split
  · rfl
  · dsimp only
    split <;> simp

/-- a status does, if it is `OK`. -/
theorem takeStatus_registered (node : Node) (status : String) (now : Int) :
    (node.takeStatus status now).1.registered = (node.registered || status == accepted) := by
  unfold takeStatus
  split
  · simp
  · split
    · split <;> simp_all
    · simp_all

/-- The timer brings no status, -/
theorem fire_registered (node : Node) (now : Int) (link : Link) :
    (node.fire now link).1.registered = node.registered := by
  unfold fire
  split
  · simp
  · exact beat_registered _ now link
  · rfl
  · rfl

/-- and neither does the end of a job. -/
theorem finish_registered
    (node : Node)
    (number : Nat)
    (result : Except String RunResult)
    (link : Link) :
    (node.finish number result link).1.registered = node.registered := by
  unfold finish
  split
  · rfl
  · dsimp only
    split <;> rfl

/-- Whether a datagram is an answer to a registration, and with which status. -/
def statusOf? (config : Config) (bytes : Bytes) : Option String :=
  match Wire.receive bytes config.maxMessageBytes with
  | .ok (.registered status) => some status
  | _ => none

/-- A datagram leads to the handling of its status, or of something else. -/
theorem receive_cases
    (node : Node)
    (bytes : Bytes)
    (sender : Endpoint)
    (now : Int)
    (link : Link)
    (running : node.stopped = false) :
    (∃ status, statusOf? node.config bytes = some status ∧
      node.receive bytes sender now link = node.takeStatus status now) ∨
    (statusOf? node.config bytes = none ∧
      (node.receive bytes sender now link).1.registered = node.registered ∧
      (node.receive bytes sender now link).1.phase = node.phase ∧
      (node.receive bytes sender now link).1.stopped = node.stopped ∧
      (node.receive bytes sender now link).1.config = node.config ∧
      ∀ result, .started result ∉ (node.receive bytes sender now link).2) := by
  unfold receive statusOf?
  rw [running]
  simp only [Bool.false_eq_true, if_false]
  cases Wire.receive bytes node.config.maxMessageBytes with
  | error refusal => simp [running]
  | ok message =>
      cases message with
      | registered status => exact .inl ⟨status, rfl, rfl⟩
      | request kind =>
          right
          dsimp only [take]
          cases Job.ofKind? kind with
          | some job => simp [begin, running]
          | none => cases link <;> simp [transmit, running]
      | _ => simp [take, running]

end Node
end Worker
end CameraFleet
