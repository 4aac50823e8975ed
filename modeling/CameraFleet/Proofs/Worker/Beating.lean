import CameraFleet.Proofs.Worker.Leaving

/-!
# Heartbeats

A worker that is not stopped says nothing but its registration, its heartbeats
and its replies. Once its wait for an answer is over it sends heartbeats, one in
each period, whatever else it does.
-/

namespace CameraFleet
namespace Worker
namespace Node

open Wire

/-- The time between two heartbeats of a worker. -/
def period (config : Config) : Int :=
  Timer.delay config.timing.heartbeatPeriod

/-- What a worker of an id may say while it is not stopped. -/
def Speaks (id : String) : Message -> Prop
  | .register other => other = id
  | .heartbeat other => other = id
  | .reply _ other _ => other = id
  | _ => False

/-- A message is all that is sent when it is transmitted and nothing follows. -/
theorem eq_of_mem_sentOf_transmit
    {link : Link}
    {target : Endpoint}
    {message : Message}
    {told : List Action}
    (silent : sentOf told = [])
    {sent : Endpoint × Message}
    (member : sent ∈ sentOf (transmit link target message told)) :
    sent.2 = message := by
  cases link with
  | none =>
      have only : sentOf (transmit none target message told) = [(target, message)] :=
        congrArg ((target, message) :: ·) silent
      rw [only, List.mem_singleton] at member
      rw [member]
  | some reason => simp [transmit, sentOf, sent?] at member

/-- The end of the wait for an answer sends nothing. -/
theorem sentOf_settle (node : Node) (status : Option String) (now : Int) :
    sentOf (node.settle status now).2 = [] := by
  simp only [settle, beginBeating]
  split <;> rfl

/-- A heartbeat is all that a beat sends. -/
theorem speaks_beat
    (node : Node)
    (now : Int)
    (link : Link)
    {sent : Endpoint × Message}
    (member : sent ∈ sentOf (node.beat now link).2) :
    Speaks node.id sent.2 := by
  unfold beat at member
  split at member
  · simp [sentOf] at member
  · exact eq_of_mem_sentOf_transmit (by rfl) member ▸ rfl

/-- A message makes a worker reply, if it says anything at all. -/
theorem speaks_take
    (node : Node)
    (message : Message)
    (sender : Endpoint)
    (now : Int)
    (link : Link)
    {sent : Endpoint × Message}
    (member : sent ∈ sentOf (node.take message sender now link).2) :
    Speaks node.id sent.2 := by
  cases message with
  | registered status =>
      have silent : sentOf (node.takeStatus status now).2 = [] := by
        unfold takeStatus
        split
        · exact sentOf_settle node _ now
        · split
          · split <;> rfl
          · rfl
      rw [take, silent] at member
      simp at member
  | request kind =>
      simp only [take] at member
      split at member
      · simp [begin, sentOf, sent?] at member
      · exact eq_of_mem_sentOf_transmit (by rfl) member ▸ rfl
  | _ => simp [take, sentOf, sent?] at member

/-- A job that has finished is answered by a reply, if at all. -/
theorem speaks_finish
    (node : Node)
    (number : Nat)
    (result : Except String RunResult)
    (link : Link)
    {sent : Endpoint × Message}
    (member : sent ∈ sentOf (node.finish number result link).2) :
    Speaks node.id sent.2 := by
  unfold finish at member
  split at member
  · simp [sentOf] at member
  · rename_i pending _
    have idle : sentOf (List.replicate node.idleWaiters .idle) = [] := by simp [sentOf, sent?]
    have reply : sent ∈ sentOf (if node.stopped = true then [.report (.replyDropped pending.job)]
        else transmit link pending.replyTo
          (.reply pending.job.kind node.id (node.conclude pending result).1)
          [.report (.replied pending.job)]) := by
      dsimp only at member
      split at member
      · simpa only [sentOf_append, sentOf_conclude, idle, List.nil_append, List.append_nil]
          using member
      · simpa only [sentOf_append, sentOf_conclude, List.nil_append] using member
    split at reply
    · simp [sentOf, sent?] at reply
    · exact eq_of_mem_sentOf_transmit (by rfl) reply ▸ rfl

/-- A worker that is not told to stop registers, sends heartbeats and replies, and says nothing
else. -/
theorem speaks_act
    (node : Node)
    {input : Input}
    (goes : input.isStop = false)
    {sent : Endpoint × Message}
    (member : sent ∈ sentOf (node.act input).2) :
    Speaks node.id sent.2 := by
  cases input with
  | stop now link => simp [Input.isStop] at goes
  | start now link =>
      simp only [act, start] at member
      split at member
      · simp [sentOf, sent?] at member
      · split at member
        · obtain rfl : (node.relay, .register node.id) = sent := by
            simpa [sentOf, sent?] using member
          rfl
        · simp [sentOf, sent?] at member
  | receive bytes sender now link =>
      simp only [act, receive] at member
      split at member
      · simp [sentOf] at member
      · split at member
        · simp [sentOf, sent?] at member
        · exact speaks_take node _ sender now _ member
  | fire now link =>
      simp only [act, fire] at member
      split at member
      · simp [sentOf_settle] at member
      · rename_i next _
        exact speaks_beat { node with phase := .beating (next + period node.config) } now _ member
      · simp [sentOf] at member
      · simp [sentOf] at member
  | heartbeat now link =>
      have done : sentOf [.heartbeatDone] = [] := rfl
      simp only [act, heartbeat, sentOf_append, done, List.append_nil] at member
      exact speaks_beat node now _ member
  | whenIdle =>
      simp only [act, whenIdle] at member
      split at member <;> simp [sentOf, sent?] at member
  | finish number result link => exact speaks_finish node number result _ member

/-- An `OK` that ends the wait for an answer starts the heartbeats. -/
theorem phase_of_ok
    {node : Node}
    (running : node.stopped = false)
    {deadline : Int}
    (waits : node.phase = .awaiting deadline)
    {bytes : Bytes}
    (ok : Wire.receive bytes node.config.maxMessageBytes = .ok (.registered "OK"))
    (sender : Endpoint)
    (now : Int)
    (link : Link) :
    (node.act (.receive bytes sender now link)).1.phase =
      .beating (now + period node.config) := by
  simp [act, receive, running, ok, take, takeStatus, waits, settle, noteStatus, accepted,
    beginBeating, period]

/-- Only the timer moves the next heartbeat of a worker that is not stopped. -/
theorem phase_act_of_beating
    {node : Node}
    (running : node.stopped = false)
    {next : Int}
    (beats : node.phase = .beating next)
    (input : Input)
    (goes : input.isStop = false)
    (early : ∀ now link, input ≠ .fire now link) :
    (node.act input).1.phase = .beating next := by
  rw [← beats]
  cases input with
  | stop now link => simp [Input.isStop] at goes
  | fire now link => exact absurd rfl (early now link)
  | start now link => rw [act, start_of_started (by simp [beats])]
  | receive bytes sender now link =>
      rcases receive_cases node bytes sender now (node.linkOf link) running with
        ⟨status, _, taken⟩ | ⟨_, _, phase, _⟩
      · rw [act, taken, takeStatus, beats]
        dsimp only
        split
        · split
          · exact beats
          · rfl
        · exact beats
      · exact phase
  | heartbeat now link => exact (act_quiet node (.heartbeat now link) trivial).1
  | whenIdle => exact (act_quiet node .whenIdle trivial).1
  | finish number result link => exact (act_quiet node (.finish number result link) trivial).1

/-- When the timer of a worker that is not stopped goes off, a heartbeat gets out and the next one
is due a period later. -/
theorem act_fire_of_beating
    {node : Node}
    (running : node.stopped = false)
    {next : Int}
    (beats : node.phase = .beating next)
    (now : Int) :
    (node.act (.fire now none)).1.phase = .beating (next + period node.config) ∧
    (node.relay, .heartbeat node.id) ∈ sentOf (node.act (.fire now none)).2 := by
  have open' : node.linkOf none = none := by simp [linkOf, running]
  simp [act, fire, beats, beat, running, open', transmit, sentOf, sent?, period]

/-! ## What is asked of a worker -/

/-- What may be asked of a worker, and what may happen to its jobs. -/
inductive Called (now : Int) : Input -> Prop
  | start : Called now (.start now none)
  | heartbeat : Called now (.heartbeat now none)
  | whenIdle : Called now .whenIdle
  | finish (job : Nat) (result : Except String RunResult) :
      Called now (.finish job result none)

/-- None of these is a stop. -/
theorem Called.goes {now : Int} {input : Input} (called : Called now input) :
    input.isStop = false := by
  cases called <;> rfl

/-- What is sent is at most a heartbeat. -/
def OnlyBeats (node : Node) (actions : List Action) : Prop :=
  ∀ sent ∈ sentOf actions, sent = (node.relay, .heartbeat node.id)

theorem onlyBeats_beat (node : Node) (now : Int) (link : Link) :
    OnlyBeats node (node.beat now link).2 := by
  intro sent member
  unfold beat at member
  split at member
  · simp [sentOf] at member
  · cases link with
    | none => simpa [transmit, sentOf, sent?, eq_comm] using member
    | some reason => simp [transmit, sentOf, sent?] at member

/-- The timer leaves the jobs alone. -/
theorem act_fire (node : Node) (now : Int) (link : Link) :
    (node.act (.fire now link)).1.pending = node.pending ∧
    OnlyBeats node (node.act (.fire now link)).2 := by
  refine ⟨(leaves_fire node now _).pending, ?_⟩
  intro sent member
  simp only [act, fire] at member
  split at member
  · simp [sentOf_settle] at member
  · rename_i next _
    exact onlyBeats_beat { node with phase := .beating (next + period node.config) } now _ sent
      member
  · simp [sentOf] at member
  · simp [sentOf] at member

/-- A worker that has started takes a call for its heartbeats, or answers a job that has
finished. -/
theorem act_called
    {node : Node}
    (goes : node.stopped = false)
    (begun : node.started = true)
    {now : Int}
    {input : Input}
    (called : Called now input) :
    ((node.act input).1.pending = node.pending ∧ OnlyBeats node (node.act input).2) ∨
    ∃ number job payload, node.pending.find? (·.number == number) = some job ∧
      (node.act input).1.pending = node.pending.filter (·.number != number) ∧
      sentOf (node.act input).2 = [(job.replyTo, .reply job.job.kind node.id payload)] := by
  cases called with
  | start =>
      left
      simp only [act, start, begun, if_true]
      exact ⟨trivial, fun sent member => by simp [sentOf, sent?] at member⟩
  | heartbeat =>
      left
      refine ⟨(leaves_beat node now _).pending, fun sent member => ?_⟩
      have done : sentOf [.heartbeatDone] = [] := rfl
      simp only [act, heartbeat, sentOf_append, done, List.append_nil] at member
      exact onlyBeats_beat node now _ sent member
  | whenIdle =>
      left
      simp only [act, whenIdle]
      split
      · exact ⟨rfl, fun sent member => by simp [sentOf, sent?] at member⟩
      · exact ⟨rfl, fun sent member => by simp [sentOf] at member⟩
  | finish number result =>
      have open' : node.linkOf none = none := by simp [linkOf, goes]
      cases found : node.pending.find? (·.number == number) with
      | none =>
          left
          simp only [act, Node.finish, found]
          exact ⟨trivial, fun sent member => by simp [sentOf] at member⟩
      | some job =>
          right
          refine ⟨number, job, (node.conclude job result).1, found, ?_⟩
          have silent : sentOf (List.replicate node.idleWaiters .idle) = [] := by
            simp [sentOf, sent?]
          have reply : sentOf (transmit none job.replyTo
              (.reply job.job.kind node.id (node.conclude job result).1)
              [.report (.replied job.job)]) =
              [(job.replyTo, .reply job.job.kind node.id (node.conclude job result).1)] := rfl
          simp only [act, Node.finish, found, goes, open', Bool.false_eq_true, if_false]
          split
          · rename_i last
            exact ⟨(List.isEmpty_iff.mp last).symm, by
              rw [sentOf_append, sentOf_append, sentOf_conclude, reply, silent]; rfl⟩
          · exact ⟨rfl, by rw [sentOf_append, sentOf_conclude, reply]; rfl⟩

/-- A broadcast is answered at once, or begins a job for the one who asked. -/
theorem act_request
    {node : Node}
    (goes : node.stopped = false)
    {bytes : Bytes}
    {kind : Kind}
    (asks : Wire.receive bytes node.config.maxMessageBytes = .ok (.request kind))
    (sender : Endpoint)
    (now : Int) :
    (kind = .time ∧ (node.act (.receive bytes sender now none)).1.pending = node.pending ∧
      sentOf (node.act (.receive bytes sender now none)).2 =
        [(sender, .reply .time node.id (Calendar.localTime (some now)))]) ∨
    ∃ job : Pending, job.job.kind = kind ∧ job.replyTo = sender ∧
      (node.act (.receive bytes sender now none)).1.pending = node.pending ++ [job] ∧
      sentOf (node.act (.receive bytes sender now none)).2 = [] := by
  have open' : node.linkOf none = none := by simp [linkOf, goes]
  simp only [act, receive, goes, open', asks, take, Bool.false_eq_true, if_false]
  cases kind with
  | time => exact .inl ⟨rfl, rfl, rfl⟩
  | listing => exact .inr ⟨⟨node.jobs, .listing, sender, now⟩, rfl, rfl, rfl, rfl⟩
  | capture => exact .inr ⟨⟨node.jobs, .capture, sender, now⟩, rfl, rfl, rfl, rfl⟩
  | upload => exact .inr ⟨⟨node.jobs, .upload, sender, now⟩, rfl, rfl, rfl, rfl⟩

end Node
end Worker
end CameraFleet
