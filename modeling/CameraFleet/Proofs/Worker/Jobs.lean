import CameraFleet.Proofs.Worker.Run

/-!
# Jobs

Commands run beside everything else and finish in any order. Each job is
answered once, when its own command has finished, to the one who asked for it;
once the worker has been stopped, it is not answered at all.
-/

namespace CameraFleet
namespace Worker
namespace Node

open Wire

/-- Whether an action is an attempt to send the reply of a job, whether it gets out or not. -/
def Attempt : Action -> Bool
  | .send _ (.reply kind _ _) => kind != .time
  | .report (.sendFailed (.reply kind) _ _) => kind != .time
  | _ => false

/-- The attempts to send a reply of a job, among actions. -/
def attemptsOf (actions : List Action) : List Action :=
  actions.filter Attempt

/-- The job that an input begins: one for each request that needs a command. -/
def begunBy? (node : Node) : Input -> Option Pending
  | .receive bytes sender now _ =>
      if node.stopped then none
      else
        match Wire.receive bytes node.config.maxMessageBytes with
        | .ok (.request kind) => (Job.ofKind? kind).map fun job =>
            { number := node.jobs, job, replyTo := sender, startedAt := now }
        | _ => none
  | _ => none

/-- The end of a job. -/
structure Ending where
  /-- The job. -/
  pending : Pending
  /-- What its command left behind, or why it could not be run. -/
  result : Except String RunResult
  /-- Whether a datagram gets out. -/
  link : Link
  /-- Whether the worker had been stopped. -/
  stopped : Bool

/-- The job that an input ends: the one of its number, if it is pending. -/
def endedBy? (node : Node) : Input -> Option Ending
  | .finish number result link =>
      (node.pending.find? (·.number == number)).map fun pending =>
        ⟨pending, result, node.linkOf link, node.stopped⟩
  | _ => none

/-- The payload that the end of a job calls for. -/
def Ending.payload (config : Config) (ending : Ending) : String :=
  match ending.result, ending.pending.job with
  | .error reason, job => failurePayload job reason
  | .ok result, .listing => listingPayload result
  | .ok result, .capture => capturePayload result (pictureName (some ending.pending.startedAt))
  | .ok result, .upload =>
      uploadPayload result (uploadTarget config.bucket (some ending.pending.startedAt))

/-- The attempts that the end of a job calls for: one, or none after a stop. -/
def Ending.attempts (id : String) (config : Config) (ending : Ending) : List Action :=
  if ending.stopped then []
  else
    match ending.link with
    | none =>
        [.send ending.pending.replyTo
          (.reply ending.pending.job.kind id (ending.payload config))]
    | some reason =>
        [.report (.sendFailed (.reply ending.pending.job.kind) ending.pending.replyTo reason)]

/-- The jobs begun in a run, in order. -/
def begun (node : Node) : List Input -> List Pending
  | [] => []
  | input :: inputs => (node.begunBy? input).toList ++ (node.act input).1.begun inputs

/-- The ends of jobs in a run, in order. -/
def ended (node : Node) : List Input -> List Ending
  | [] => []
  | input :: inputs => (node.endedBy? input).toList ++ (node.act input).1.ended inputs

/-- The attempts to send replies of jobs in a run, in order. -/
def attempts (node : Node) : List Input -> List Action
  | [] => []
  | input :: inputs => attemptsOf (node.act input).2 ++ (node.act input).1.attempts inputs

/-- A result that has nothing to do with jobs. -/
structure Leaves (node : Node) (result : Node × List Action) : Prop where
  id : result.1.id = node.id
  config : result.1.config = node.config
  pending : result.1.pending = node.pending
  jobs : result.1.jobs = node.jobs
  silent : attemptsOf result.2 = []

/-- Attempts are counted one step after the other. -/
theorem attemptsOf_append (before after : List Action) :
    attemptsOf (before ++ after) = attemptsOf before ++ attemptsOf after :=
  List.filter_append before after

/-- The end of the wait for an answer has nothing to do with jobs, -/
theorem leaves_settle (node : Node) (status : Option String) (now : Int) :
    node.Leaves (node.settle status now) := by
  have quiet : Attempt (.report (ackEvent status)) = false := by
    cases status with
    | none => rfl
    | some status =>
        simp only [ackEvent]
        split <;> rfl
  unfold settle noteStatus beginBeating
  constructor <;> (dsimp only; split <;> split) <;>
    simp [attemptsOf, quiet] <;> simp [Attempt]

/-- nor has a status, -/
theorem leaves_takeStatus (node : Node) (status : String) (now : Int) :
    node.Leaves (node.takeStatus status now) := by
  unfold takeStatus
  split
  · exact leaves_settle node _ now
  · split
    · split <;> constructor <;> simp [attemptsOf, Attempt]
    · constructor <;> simp [attemptsOf, Attempt]

/-- A datagram that carries no reply of a job. -/
theorem attemptsOf_transmit
    (link : Link)
    (target : Endpoint)
    {message : Message}
    (other : ∀ kind id payload, message = .reply kind id payload -> kind = .time)
    (told : List Action)
    (silent : attemptsOf told = []) :
    attemptsOf (transmit link target message told) = [] := by
  cases link with
  | none =>
      simp only [transmit]
      cases message <;> simp_all [attemptsOf, Attempt]
  | some reason =>
      cases message <;> simp_all [transmit, attemptsOf, Attempt, Message.tag]

/-- nor a heartbeat, -/
theorem leaves_beat (node : Node) (now : Int) (link : Link) :
    node.Leaves (node.beat now link) := by
  unfold beat
  split
  · constructor <;> rfl
  · refine ⟨rfl, rfl, rfl, rfl, ?_⟩
    exact attemptsOf_transmit link node.relay (by simp) _ rfl

/-- nor a start, -/
theorem leaves_start (node : Node) (now : Int) (link : Link) :
    node.Leaves (node.start now link) := by
  unfold start
  split
  · constructor <;> rfl
  · split <;> constructor <;> rfl

/-- nor a stop: jobs go on after it, -/
theorem leaves_stop (node : Node) (now : Int) (link : Link) :
    node.Leaves (node.stop now link) := by
  unfold stop
  split
  · constructor <;> rfl
  · have farewell : attemptsOf (if node.started = true then
        transmit link node.relay (.unregister node.id) [] else []) = [] := by
      split
      · exact attemptsOf_transmit link node.relay (by simp) [] rfl
      · rfl
    revert farewell
    generalize (if node.started = true then
      transmit link node.relay (.unregister node.id) [] else []) = farewell
    intro farewell
    cases node.phase with
    | awaiting deadline =>
        obtain ⟨id, config, pending, jobs, silent⟩ :=
          leaves_settle { node with phase := .awaiting deadline, stopped := true } none now
        refine ⟨id, config, pending, jobs, ?_⟩
        dsimp only at silent ⊢
        revert silent
        generalize ({ node with phase := .awaiting deadline, stopped := true }.settle
          none now).2 = waiting
        intro silent
        cases link <;> cases waiting <;> simp_all [attemptsOf, Attempt]
    | _ =>
        refine ⟨rfl, rfl, rfl, rfl, ?_⟩
        cases link <;> simp_all [attemptsOf, Attempt]

/-- nor the timer. -/
theorem leaves_fire (node : Node) (now : Int) (link : Link) :
    node.Leaves (node.fire now link) := by
  unfold fire
  split
  · exact leaves_settle node none now
  · obtain ⟨id, config, pending, jobs, silent⟩ := leaves_beat _ now link
    exact ⟨id, config, pending, jobs, silent⟩
  · constructor <;> rfl
  · constructor <;> rfl

/-- What an input that begins no job and finishes none does. -/
theorem leaves_receive
    (node : Node)
    (bytes : Bytes)
    (sender : Endpoint)
    (now : Int)
    (link : Link)
    (none : node.begunBy? (.receive bytes sender now link) = none) :
    node.Leaves (node.receive bytes sender now (node.linkOf link)) := by
  unfold receive
  simp only [begunBy?] at none
  split at none
  · rename_i stopped
    rw [if_pos stopped]
    constructor <;> rfl
  · rename_i running
    rw [if_neg running]
    split
    · constructor <;> rfl
    · rename_i message received
      rw [received] at none
      cases message with
      | registered status => exact leaves_takeStatus node status now
      | request kind =>
          cases kind with
          | time =>
              refine ⟨rfl, rfl, rfl, rfl, ?_⟩
              exact attemptsOf_transmit (node.linkOf link) sender (by simp) [] rfl
          | listing => simp [Job.ofKind?] at none
          | capture => simp [Job.ofKind?] at none
          | upload => simp [Job.ofKind?] at none
      | _ => constructor <;> rfl

/-- An input that begins a job. -/
theorem act_of_begun
    {node : Node}
    {input : Input}
    {job : Pending}
    (begun : node.begunBy? input = some job) :
    (node.act input).1 = { node with pending := node.pending ++ [job], jobs := node.jobs + 1 } ∧
    job.number = node.jobs ∧
    attemptsOf (node.act input).2 = [] := by
  unfold begunBy? at begun
  split at begun
  · rename_i bytes sender now link
    split at begun
    · simp at begun
    · rename_i running
      split at begun
      · rename_i kind received
        obtain ⟨task, known, rfl⟩ := Option.map_eq_some_iff.mp begun
        refine ⟨?_, rfl, ?_⟩
        · simp [act, receive, running, received, take, known, begin]
        · simp [act, receive, running, received, take, known, begin, attemptsOf, Attempt]
      · simp at begun
  · simp at begun

/-- The first job of a number, when no two jobs share one, and all others. -/
theorem perm_of_find?
    {jobs : List Pending}
    (distinct : (jobs.map (·.number)).Nodup)
    {number : Nat}
    {job : Pending}
    (found : jobs.find? (·.number == number) = some job) :
    jobs.Perm (job :: jobs.filter (·.number != number)) := by
  induction jobs with
  | nil => simp at found
  | cons first jobs ih =>
      obtain ⟨fresh, distinct⟩ := List.nodup_cons.mp distinct
      by_cases same : first.number = number
      · obtain rfl : first = job := by simpa [same] using found
        have others : jobs.filter (·.number != number) = jobs := by
          refine List.filter_eq_self.mpr fun other member => ?_
          have differs : other.number ≠ number := fun equal =>
            fresh (List.mem_map.mpr ⟨other, member, equal.trans same.symm⟩)
          simpa using differs
        simp [same, others]
      · have later : jobs.find? (·.number == number) = some job := by
          simpa [same] using found
        have kept : (first :: jobs).filter (·.number != number) =
            first :: jobs.filter (·.number != number) := by simp [same]
        rw [kept]
        exact ((ih distinct later).cons first).trans (.swap job first _)

/-- What the log is told of a command is no reply. -/
theorem attemptsOf_told (node : Node) (pending : Pending) (result : Except String RunResult) :
    attemptsOf (node.conclude pending result).2 = [] := by
  cases result with
  | error reason => rfl
  | ok result =>
      simp only [conclude, runWarning]
      split <;> rfl

/-- The payload is made of the job, its result and the configuration only. -/
theorem conclude_payload (node : Node) (ending : Ending) :
    (node.conclude ending.pending ending.result).1 = ending.payload node.config := by
  obtain ⟨⟨number, job, replyTo, startedAt⟩, result, link, stopped⟩ := ending
  cases result with
  | error reason => rfl
  | ok result => cases job <;> rfl

/-- A reply that gets out is one attempt, and so is the report of one that does not. -/
theorem attemptsOf_reply
    (target : Endpoint)
    (job : Job)
    (id payload : String) :
    attemptsOf (transmit none target (.reply job.kind id payload) [.report (.replied job)]) =
      [.send target (.reply job.kind id payload)] ∧
    ∀ reason,
      attemptsOf
          (transmit (some reason) target (.reply job.kind id payload) [.report (.replied job)]) =
        [.report (.sendFailed (.reply job.kind) target reason)] := by
  have timeless : (job.kind != .time) = true := by cases job <;> rfl
  constructor <;> simp [transmit, attemptsOf, Attempt, Message.tag, timeless]

/-- An input that ends a job. -/
theorem act_of_ended
    {node : Node}
    (distinct : (node.pending.map (·.number)).Nodup)
    {input : Input}
    {ending : Ending}
    (ended : node.endedBy? input = some ending) :
    (node.act input).1.id = node.id ∧
    (node.act input).1.config = node.config ∧
    (node.act input).1.jobs = node.jobs ∧
    node.pending.Perm (ending.pending :: (node.act input).1.pending) ∧
    attemptsOf (node.act input).2 = ending.attempts node.id node.config := by
  cases input with
  | finish number result link =>
      obtain ⟨pending, found, rfl⟩ := Option.map_eq_some_iff.mp ended
      have payload := conclude_payload node ⟨pending, result, node.linkOf link, node.stopped⟩
      have told := attemptsOf_told node pending result
      have parted := perm_of_find? distinct found
      have attempts : attemptsOf ((node.conclude pending result).2 ++
          if node.stopped = true then [.report (.replyDropped pending.job)]
          else transmit (node.linkOf link) pending.replyTo
            (.reply pending.job.kind node.id (node.conclude pending result).1)
            [.report (.replied pending.job)]) =
          Ending.attempts node.id node.config
            ⟨pending, result, node.linkOf link, node.stopped⟩ := by
        rw [attemptsOf_append, told, List.nil_append, Ending.attempts]
        dsimp only at payload ⊢
        split
        · rfl
        · obtain ⟨sent, failed⟩ :=
            attemptsOf_reply pending.replyTo pending.job node.id (node.conclude pending result).1
          cases known : node.linkOf link with
          | none => rw [sent, payload, known]
          | some reason => exact failed reason
      simp only [act, Node.finish, found]
      split
      · rename_i last
        refine ⟨rfl, rfl, rfl, ?_, ?_⟩
        · rw [List.isEmpty_iff.mp last] at parted
          exact parted
        · have quiet : attemptsOf (List.replicate node.idleWaiters .idle) = [] := by
            simp [attemptsOf, Attempt]
          rw [attemptsOf_append, quiet, List.append_nil]
          exact attempts
      · exact ⟨rfl, rfl, rfl, parted, attempts⟩
  | _ => simp [endedBy?] at ended

/-- An input that neither begins nor ends a job. -/
theorem act_of_neither
    {node : Node}
    {input : Input}
    (begun : node.begunBy? input = none)
    (ended : node.endedBy? input = none) :
    node.Leaves (node.act input) := by
  cases input with
  | start now link => exact leaves_start node now _
  | stop now link => exact leaves_stop node now _
  | receive bytes sender now link => exact leaves_receive node bytes sender now link begun
  | fire now link => exact leaves_fire node now _
  | heartbeat now link =>
      obtain ⟨id, config, pending, jobs, silent⟩ := leaves_beat node now (node.linkOf link)
      refine ⟨id, config, pending, jobs, ?_⟩
      simp only [act, heartbeat]
      rw [attemptsOf_append, silent]
      rfl
  | whenIdle =>
      simp only [act, whenIdle]
      split <;> constructor <;> rfl
  | finish number result link =>
      have unknown : node.pending.find? (·.number == number) = none := by
        simpa [endedBy?] using ended
      simp only [act, Node.finish, unknown]
      constructor <;> rfl

/-- What begins a job ends none. -/
theorem endedBy?_of_begun
    {node : Node}
    {input : Input}
    {job : Pending}
    (begun : node.begunBy? input = some job) :
    node.endedBy? input = none := by
  cases input with
  | finish number result link => simp [begunBy?] at begun
  | _ => rfl

/-- A worker whose pending jobs are told apart by their numbers. -/
structure Numbered (node : Node) : Prop where
  distinct : (node.pending.map (·.number)).Nodup
  bounded : ∀ job ∈ node.pending, job.number < node.jobs

theorem Numbered.act
    {node : Node}
    (numbered : node.Numbered)
    (input : Input) :
    (node.act input).1.Numbered := by
  cases begun : node.begunBy? input with
  | some job =>
      obtain ⟨after, number, _⟩ := act_of_begun begun
      rw [after]
      refine ⟨?_, fun other member => ?_⟩
      · rw [List.map_append, List.nodup_append]
        refine ⟨numbered.distinct, by simp, ?_⟩
        rintro taken old last new rfl
        obtain ⟨other, member, rfl⟩ := List.mem_map.mp old
        have bound := numbered.bounded other member
        have same : other.number = job.number := by simpa using new
        omega
      · rcases List.mem_append.mp member with old | new
        · exact Nat.lt_succ_of_lt (numbered.bounded other old)
        · rw [List.mem_singleton.mp new, number]
          exact Nat.lt_succ_self _
  | none =>
      cases ended : node.endedBy? input with
      | some ending =>
          obtain ⟨_, _, jobs, parted, _⟩ := act_of_ended numbered.distinct ended
          have distinct := (parted.map (·.number)).nodup_iff.mp numbered.distinct
          refine ⟨(List.nodup_cons.mp distinct).2, fun other member => ?_⟩
          rw [jobs]
          exact numbered.bounded other (parted.mem_iff.mpr (List.mem_cons_of_mem _ member))
      | none =>
          have leaves := act_of_neither begun ended
          exact ⟨leaves.pending ▸ numbered.distinct, by
            rw [leaves.pending, leaves.jobs]
            exact numbered.bounded⟩

/-- What a run does with jobs, from any state in which their numbers tell them apart. -/
theorem Numbered.run
    {node : Node}
    (numbered : node.Numbered)
    (inputs : List Input) :
    node.attempts inputs =
      (node.ended inputs).flatMap (Ending.attempts node.id node.config) ∧
    (node.pending ++ node.begun inputs).Perm
      ((node.ended inputs).map (·.pending) ++ (node.run inputs).pending) ∧
    (node.begun inputs).map (·.number) =
      List.range' node.jobs (node.begun inputs).length := by
  induction inputs generalizing node with
  | nil => exact ⟨rfl, by simp [begun, ended], rfl⟩
  | cons input inputs ih =>
      obtain ⟨attempts, parted, numbers⟩ := ih (numbered.act input)
      simp only [Node.attempts, Node.begun, Node.ended, run_cons]
      cases begins : node.begunBy? input with
      | some job =>
          obtain ⟨after, number, silent⟩ := act_of_begun begins
          rw [endedBy?_of_begun begins, silent, attempts]
          have id : (node.act input).1.id = node.id := by rw [after]
          have config : (node.act input).1.config = node.config := by rw [after]
          have pending : (node.act input).1.pending = node.pending ++ [job] := by rw [after]
          have jobs : (node.act input).1.jobs = node.jobs + 1 := by rw [after]
          refine ⟨by rw [id, config]; rfl, ?_, ?_⟩
          · rw [pending] at parted
            simpa using parted
          · rw [jobs] at numbers
            simp [numbers, number, List.range'_succ]
      | none =>
          cases ends : node.endedBy? input with
          | some ending =>
              obtain ⟨id, config, jobs, removed, answered⟩ :=
                act_of_ended numbered.distinct ends
              rw [answered, attempts, id, config]
              refine ⟨rfl, ?_, by simpa [jobs] using numbers⟩
              exact (removed.append_right _).trans (parted.cons ending.pending)
          | none =>
              have leaves := act_of_neither begins ends
              rw [leaves.silent, attempts, leaves.id, leaves.config]
              refine ⟨rfl, ?_, by simpa [leaves.jobs] using numbers⟩
              simpa [leaves.pending] using parted

/-- Sending wakes nobody who waits for the jobs; -/
theorem idle_not_mem_transmit
    (link : Link)
    (target : Endpoint)
    (message : Message)
    {told : List Action}
    (busy : .idle ∉ told) :
    .idle ∉ transmit link target message told := by
  cases link <;> simp [transmit, busy]

theorem idle_not_mem_settle (node : Node) (status : Option String) (now : Int) :
    .idle ∉ (node.settle status now).2 := by
  simp only [settle, beginBeating]
  split <;> simp

theorem idle_not_mem_beat (node : Node) (now : Int) (link : Link) :
    .idle ∉ (node.beat now link).2 := by
  unfold beat
  split
  · simp
  · exact idle_not_mem_transmit _ _ _ (by simp)

theorem idle_not_mem_start (node : Node) (now : Int) (link : Link) :
    .idle ∉ (node.start now link).2 := by
  unfold start
  split
  · simp
  · split <;> simp

theorem idle_not_mem_stop (node : Node) (now : Int) (link : Link) :
    .idle ∉ (node.stop now link).2 := by
  unfold stop
  split
  · simp
  · have farewell : .idle ∉ (if node.started = true then
        transmit link node.relay (.unregister node.id) [] else []) := by
      split
      · exact idle_not_mem_transmit _ _ _ (by simp)
      · simp
    revert farewell
    generalize (if node.started = true then
      transmit link node.relay (.unregister node.id) [] else []) = farewell
    intro farewell
    cases node.phase with
    | awaiting deadline =>
        have waiting := idle_not_mem_settle
          { node with phase := .awaiting deadline, stopped := true } none now
        revert waiting
        dsimp only
        generalize ({ node with phase := .awaiting deadline, stopped := true }.settle
          none now).2 = waiting
        intro silent
        cases link <;> cases waiting <;> simp_all
    | _ => cases link <;> simp_all

theorem idle_not_mem_receive
    (node : Node)
    (bytes : Bytes)
    (sender : Endpoint)
    (now : Int)
    (link : Link) :
    .idle ∉ (node.receive bytes sender now link).2 := by
  unfold receive
  split
  · simp
  · split
    · simp
    · unfold take
      split
      · unfold takeStatus
        split
        · exact idle_not_mem_settle _ _ _
        · split
          · split <;> simp
          · simp
      · split
        · simp [begin]
        · simpa using idle_not_mem_transmit link sender _ (by simp)
      · simp
      · simp

theorem idle_not_mem_fire (node : Node) (now : Int) (link : Link) :
    .idle ∉ (node.fire now link).2 := by
  unfold fire
  split
  · exact idle_not_mem_settle _ _ _
  · exact idle_not_mem_beat _ _ _
  · simp
  · simp

/-- A wait for all jobs only ends when none is pending. -/
theorem pending_of_idle
    {node : Node}
    {input : Input}
    (idle : .idle ∈ (node.act input).2) :
    (node.act input).1.pending = [] := by
  cases input with
  | start now link => exact absurd idle (idle_not_mem_start node now _)
  | stop now link => exact absurd idle (idle_not_mem_stop node now _)
  | receive bytes sender now link =>
      exact absurd idle (idle_not_mem_receive node bytes sender now _)
  | fire now link => exact absurd idle (idle_not_mem_fire node now _)
  | heartbeat now link =>
      have busy := idle_not_mem_beat node now (node.linkOf link)
      simp [act, heartbeat, busy] at idle
  | whenIdle =>
      simp only [act, whenIdle] at idle ⊢
      split at idle
      · rename_i none
        rw [if_pos none]
        exact List.isEmpty_iff.mp none
      · simp at idle
  | finish number result link =>
      simp only [act, Node.finish] at idle ⊢
      split at idle
      · simp at idle
      · rename_i pending _
        split at idle
        · rename_i last
          rw [if_pos last]
        · refine absurd idle ?_
          have told : .idle ∉ (node.conclude pending result).2 := by
            cases result with
            | error reason => simp [conclude]
            | ok result =>
                simp only [conclude, runWarning]
                split <;> simp
          have reply : .idle ∉ (if node.stopped = true then
              [.report (.replyDropped pending.job)]
              else transmit (node.linkOf link) pending.replyTo
                (.reply pending.job.kind node.id (node.conclude pending result).1)
                [.report (.replied pending.job)]) := by
            split
            · simp
            · exact idle_not_mem_transmit _ _ _ (by simp)
          simpa using ⟨told, reply⟩

/-- Whether an input stops the worker. -/
def Input.isStop : Input -> Bool
  | .stop .. => true
  | _ => false

/-- After a stop the worker is stopped, -/
theorem stopped_stop (node : Node) (now : Int) (link : Link) :
    (node.stop now link).1.stopped = true := by
  unfold stop
  split
  · assumption
  · cases node.phase <;> simp

/-- which no message does, -/
theorem stopped_take
    (node : Node)
    (message : Message)
    (sender : Endpoint)
    (now : Int)
    (link : Link) :
    (node.take message sender now link).1.stopped = node.stopped := by
  unfold take
  split
  · unfold takeStatus
    split
    · simp
    · split
      · split <;> rfl
      · rfl
  · split <;> rfl
  · rfl
  · rfl

/-- A worker is stopped by a stop, and stays stopped. -/
theorem stopped_act (node : Node) (input : Input) :
    (node.act input).1.stopped = (node.stopped || input.isStop) := by
  cases input with
  | start now link =>
      simp only [act, start, Input.isStop, Bool.or_false]
      split
      · rfl
      · split <;> rfl
  | stop now link => simp [act, stopped_stop, Input.isStop]
  | receive bytes sender now link =>
      simp only [act, receive, Input.isStop, Bool.or_false]
      split
      · rfl
      · split
        · rfl
        · exact stopped_take _ _ _ _ _
  | fire now link =>
      simp only [act, fire, Input.isStop, Bool.or_false]
      split
      · simp
      · simp only [beat]
        split <;> rfl
      · rfl
      · rfl
  | heartbeat now link =>
      simp only [act, heartbeat, beat, Input.isStop, Bool.or_false]
      split <;> rfl
  | whenIdle =>
      simp only [act, whenIdle, Input.isStop, Bool.or_false]
      split <;> rfl
  | finish number result link =>
      simp only [act, Node.finish, Input.isStop, Bool.or_false]
      split
      · rfl
      · split <;> rfl

/-- so a worker is stopped once it was told to stop. -/
theorem stopped_run (node : Node) (inputs : List Input) :
    (node.run inputs).stopped = (node.stopped || inputs.any Input.isStop) := by
  induction inputs generalizing node with
  | nil => simp
  | cons input inputs ih => rw [run_cons, ih, stopped_act, List.any_cons, Bool.or_assoc]

end Node
end Worker
end CameraFleet
