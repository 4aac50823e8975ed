import CameraFleet.Config.Basic
import CameraFleet.Device.Id
import CameraFleet.Timer
import CameraFleet.Wire.Datagram
import CameraFleet.Worker.Event
import CameraFleet.Worker.Payload

/-!
# Worker nodes

A worker registers with the relay, sends heartbeats, and answers broadcasts. It
asks for one registration only and goes on without an answer. Commands run
beside everything else; a reply is sent when its command has finished.

Every step is a function of the time and of the link, which says whether a
datagram sent in this step gets out. A step sends one datagram at most. The
timers are part of the state, as the times at which they are due.
-/

namespace CameraFleet
namespace Worker

open Wire

/-- Whether a datagram gets out: none if it does, else the reason why not. -/
abbrev Link := Option String

/-- How far a worker has come with its registration. -/
inductive Phase
  /-- It has not been started. -/
  | fresh
  /-- It waits for an answer until a deadline. -/
  | awaiting (deadline : Int)
  /-- It sends heartbeats, the next one at the given time. -/
  | beating (next : Int)
  /-- It has been started, and no timer runs. -/
  | quiet
  deriving Repr, DecidableEq

/-- A job whose command runs. -/
structure Pending where
  /-- The number of the job. -/
  number : Nat
  /-- What is done. -/
  job : Job
  /-- Who gets the reply. -/
  replyTo : Endpoint
  /-- When the job began. -/
  startedAt : Int
  deriving Repr, DecidableEq

/-- A worker. -/
structure Node where
  /-- The id it registers with. -/
  id : String
  /-- The relay it registers with. -/
  relay : Endpoint
  /-- The configuration. -/
  config : Config
  /-- Whether the relay has accepted the registration. -/
  registered : Bool := false
  /-- When the last heartbeat was due; zero before the first. -/
  lastHeartbeatSent : Int := 0
  /-- How far the registration has come. -/
  phase : Phase := .fresh
  /-- Whether the worker has been stopped. -/
  stopped : Bool := false
  /-- The jobs whose command runs, oldest first. -/
  pending : List Pending := []
  /-- The number of jobs begun. -/
  jobs : Nat := 0
  /-- How many wait for all jobs to finish. -/
  idleWaiters : Nat := 0
  deriving Repr, DecidableEq

/-- How a start ended. -/
structure Registration where
  /-- Whether the relay accepted. -/
  acknowledged : Bool
  /-- The status that it answered, if it did. -/
  status : Option String
  deriving Repr, DecidableEq

/-- Something that a step does, in order. -/
inductive Action
  /-- Tell the log. -/
  | report (event : Event)
  /-- Send a datagram, which gets out. -/
  | send (target : Endpoint) (message : Message)
  /-- Run the command of a job. -/
  | run (number : Nat) (command : Command)
  /-- Release the socket. -/
  | close
  /-- A start has ended, or failed for a reason. -/
  | started (result : Except String Registration)
  /-- A stop has ended. -/
  | stopped
  /-- A heartbeat on demand has ended. -/
  | heartbeatDone
  /-- A wait for all jobs has ended. -/
  | idle
  deriving Repr

namespace Node

/-- A worker that has not been started. -/
def new
    (id : String)
    (relay : Endpoint)
    (config : Config) : Node :=
  { id, relay, config }

/-- The wording of the refusal of an id. -/
def invalidIdMessage (id : String) : String :=
  s!"Invalid device id \"{id}\": 1-31 bytes, no \":\" or newline"

/-- The datagram of a message. -/
def datagram (node : Node) (message : Message) : Bytes :=
  Wire.encode message node.config.maxMessageBytes

/-- Whether the worker has been started. -/
def started (node : Node) : Bool :=
  node.phase != .fresh

/-- Send a message: what happens if it gets out follows, a failure is logged. -/
def transmit
    (link : Link)
    (target : Endpoint)
    (message : Message)
    (onSent : List Action) : List Action :=
  match link with
  | none => .send target message :: onSent
  | some reason => [.report (.sendFailed message.tag target reason)]

/-- The status of an accepted registration. -/
def accepted : String := "OK"

/-- Note the status of an answer: the worker is registered once one is `OK`. -/
def noteStatus (node : Node) (status : Option String) : Node :=
  if status = some accepted then { node with registered := true } else node

/-- What the log is told when the wait for an answer ends. -/
def ackEvent : Option String -> Event
  | none => .unanswered
  | some status => if status = accepted then .acknowledged else .refused status

/-- Begin with the heartbeats, unless the worker has been stopped. -/
def beginBeating (node : Node) (now : Int) : Node × List Action :=
  if node.stopped then ({ node with phase := .quiet }, [])
  else
    ({ node with
        lastHeartbeatSent := now
        phase := .beating (now + Timer.delay node.config.timing.heartbeatPeriod) },
      [.report (.ready node.id)])

/-- End the wait for an answer: with a status, or without one. -/
def settle
    (node : Node)
    (status : Option String)
    (now : Int) : Node × List Action :=
  let node := node.noteStatus status
  let (node, actions) := node.beginBeating now
  (node,
    .report (ackEvent status) :: actions ++ [.started (.ok ⟨node.registered, status⟩)])

/-- Start: register with the relay and wait for the answer. -/
def start
    (node : Node)
    (now : Int)
    (link : Link) : Node × List Action :=
  if node.started then
    let status := if node.registered then some accepted else none
    (node, [.started (.ok ⟨node.registered, status⟩)])
  else
    let announce := Action.report (.registering node.relay node.id)
    match link with
    | none =>
        ({ node with phase := .awaiting (now + Timer.delay node.config.timing.ackTimeout) },
          [announce, .send node.relay (.register node.id)])
    | some reason =>
        ({ node with phase := .quiet }, [announce, .started (.error reason)])

/--
Stop: leave the relay if the worker has been started, and release the socket. A
wait for an answer ends first, but a farewell that gets out does so before the
end of the wait is noticed.
-/
def stop
    (node : Node)
    (now : Int)
    (link : Link) : Node × List Action :=
  if node.stopped then (node, [.stopped])
  else
    let stopped := { node with stopped := true }
    let (left, waiting) :=
      match node.phase with
      | .awaiting _ => stopped.settle none now
      | .beating _ => ({ stopped with phase := .quiet }, [])
      | .fresh | .quiet => (stopped, [])
    let farewell := if node.started then transmit link node.relay (.unregister node.id) [] else []
    let actions :=
      match link, waiting with
      | some _, first :: rest => first :: farewell ++ rest
      | _, _ => farewell ++ waiting
    (left, actions ++ [.close, .report (.stopped node.id), .stopped])

/-- Send a heartbeat, unless the worker has been stopped. -/
def beat
    (node : Node)
    (now : Int)
    (link : Link) : Node × List Action :=
  if node.stopped then (node, [])
  else
    ({ node with lastHeartbeatSent := now },
      transmit link node.relay (.heartbeat node.id) [.report .heartbeatSent])

/-- Send a heartbeat on demand. -/
def heartbeat
    (node : Node)
    (now : Int)
    (link : Link) : Node × List Action :=
  let (node, actions) := node.beat now link
  (node, actions ++ [.heartbeatDone])

/-- Wait until all jobs have finished. -/
def whenIdle (node : Node) : Node × List Action :=
  if node.pending.isEmpty then (node, [.idle])
  else ({ node with idleWaiters := node.idleWaiters + 1 }, [])

/-- Take a status of the relay. -/
def takeStatus
    (node : Node)
    (status : String)
    (now : Int) : Node × List Action :=
  match node.phase with
  | .awaiting _ => node.settle (some status) now
  | _ =>
      if status = accepted then
        if node.registered then (node, [])
        else ({ node with registered := true }, [.report .acknowledged])
      else (node, [.report (.statusReported status)])

/-- The file of the picture of a job. -/
def fileOf (pending : Pending) : String :=
  pictureName (some pending.startedAt)

/-- Where the upload of a job goes. -/
def targetOf (node : Node) (pending : Pending) : String :=
  uploadTarget node.config.bucket (some pending.startedAt)

/-- The command of a job. -/
def commandOf (node : Node) (pending : Pending) : Command :=
  match pending.job with
  | .listing => node.config.collaborators.listing
  | .capture =>
      node.config.collaborators.capture.expand [("file", fileOf pending)]
  | .upload =>
      node.config.collaborators.upload.expand [("destination", node.targetOf pending)]

/-- Begin a job. -/
def begin
    (node : Node)
    (job : Job)
    (replyTo : Endpoint)
    (now : Int) : Node × List Action :=
  let pending : Pending := { number := node.jobs, job, replyTo, startedAt := now }
  ({ node with pending := node.pending ++ [pending], jobs := node.jobs + 1 },
    [.report (.running job replyTo), .run pending.number (node.commandOf pending)])

/-- The payload of a job whose command left something behind. -/
def payloadOf
    (node : Node)
    (pending : Pending)
    (result : RunResult) : String :=
  match pending.job with
  | .listing => listingPayload result
  | .capture => capturePayload result (fileOf pending)
  | .upload => uploadPayload result (node.targetOf pending)

/-- The payload of a job that could not be done. -/
def failurePayload (job : Job) (reason : String) : String :=
  { ok := false, detail := s!"{job.kind.name} failed: {reason}" : Outcome }.text

/-- The warning about a command that failed; listings are sent without one. -/
def runWarning (job : Job) (result : RunResult) : List Action :=
  if job = .listing || result.exitCode = some 0 then []
  else
    let reason := result.error.getD ("exit code " ++ result.exitText)
    [.report (.runFailed job reason)]

/-- The payload of a finished job, and what the log is told of its command. -/
def conclude
    (node : Node)
    (pending : Pending) : Except String RunResult -> String × List Action
  | .ok result => (node.payloadOf pending result, runWarning pending.job result)
  | .error reason =>
      (failurePayload pending.job reason, [.report (.jobFailed pending.job reason)])

/-- Finish a job: its reply goes to the one who asked, unless the worker has been stopped. -/
def finish
    (node : Node)
    (number : Nat)
    (result : Except String RunResult)
    (link : Link) : Node × List Action :=
  match node.pending.find? (·.number == number) with
  | none => (node, [])
  | some pending =>
      let (payload, told) := node.conclude pending result
      let reply :=
        if node.stopped then [.report (.replyDropped pending.job)]
        else
          transmit link pending.replyTo (.reply pending.job.kind node.id payload)
            [.report (.replied pending.job)]
      let remaining := node.pending.filter (·.number != number)
      if remaining.isEmpty then
        ({ node with pending := [], idleWaiters := 0 },
          told ++ reply ++ List.replicate node.idleWaiters .idle)
      else
        ({ node with pending := remaining }, told ++ reply)

/-- Take a message. -/
def take
    (node : Node)
    (message : Message)
    (sender : Endpoint)
    (now : Int)
    (link : Link) : Node × List Action :=
  match message with
  | .registered status => node.takeStatus status now
  | .request kind =>
      match Job.ofKind? kind with
      | some job => node.begin job sender now
      | none =>
          let payload := Calendar.localTime (some now)
          (node,
            .report (.timeAsked sender) ::
              transmit link sender (.reply .time node.id payload) [])
  | .error code detail => (node, [.report (.relayError code detail)])
  | _ => (node, [.report (.ignored message.tag sender)])

/-- Take a datagram, unless the worker has been stopped. -/
def receive
    (node : Node)
    (bytes : Bytes)
    (sender : Endpoint)
    (now : Int)
    (link : Link) : Node × List Action :=
  if node.stopped then (node, [])
  else
    match Wire.receive bytes node.config.maxMessageBytes with
    | .error refusal => (node, [.report (.unreadable refusal sender)])
    | .ok message => node.take message sender now link

/-- When the timer of the worker is due, if one runs. -/
def due? (node : Node) : Option Int :=
  match node.phase with
  | .awaiting deadline => some deadline
  | .beating next => some next
  | .fresh | .quiet => none

/-- What happens when the timer is due: the wait for an answer ends, or a heartbeat goes out. -/
def fire
    (node : Node)
    (now : Int)
    (link : Link) : Node × List Action :=
  match node.phase with
  | .awaiting _ => node.settle none now
  | .beating next =>
      let period := Timer.delay node.config.timing.heartbeatPeriod
      { node with phase := .beating (next + period) }.beat now link
  | .fresh | .quiet => (node, [])

end Node
end Worker
end CameraFleet
