import CameraFleet.Proofs.Worker.Run

/-!
# Registration

A worker is registered once it has taken an `OK`, whether it was waiting for it
or not, and stays so. The first start ends once: with the first status that
comes before the wait is over, or without one.
-/

namespace CameraFleet
namespace Worker
namespace Node

open Wire

/-- The worker takes an `OK`. -/
def TakesOk (node : Node) : Input -> Prop
  | .receive bytes _ _ _ => node.stopped = false ∧ statusOf? node.config bytes = some "OK"
  | _ => False

/-- A step registers a worker just if it takes an `OK`. -/
theorem act_registered (node : Node) (input : Input) :
    (node.act input).1.registered = true ↔ node.registered = true ∨ node.TakesOk input := by
  cases input with
  | start now link => simp [act, start_registered, TakesOk]
  | stop now link => simp [act, stop_registered, TakesOk]
  | fire now link => simp [act, fire_registered, TakesOk]
  | heartbeat now link => simp [act, heartbeat, beat_registered, TakesOk]
  | whenIdle =>
      simp only [act, whenIdle, TakesOk, or_false]
      split <;> rfl
  | finish number result link => simp [act, finish_registered, TakesOk]
  | receive bytes sender now link =>
      cases stopped : node.stopped with
      | true => simp [act, receive, TakesOk, stopped]
      | false =>
          rcases receive_cases node bytes sender now (node.linkOf link) stopped with
            ⟨status, known, taken⟩ | ⟨other, same, _⟩
          · simp [act, taken, takeStatus_registered, TakesOk, stopped, known, accepted]
          · simp [act, same, TakesOk, other]

/-- A worker that is registered after a run was so before, or has taken an `OK` in it. -/
theorem run_registered (node : Node) (inputs : List Input) :
    (node.run inputs).registered = true ↔
      node.registered = true ∨
        ∃ before input after, inputs = before ++ input :: after ∧
          (node.run before).TakesOk input := by
  induction inputs generalizing node with
  | nil => simp
  | cons input inputs ih =>
      rw [run_cons, ih, act_registered]
      constructor
      · rintro ((before | here) | ⟨before, later, after, rfl, taken⟩)
        · exact .inl before
        · exact .inr ⟨[], input, inputs, rfl, here⟩
        · exact .inr ⟨input :: before, later, after, rfl, taken⟩
      · rintro (before | ⟨before, later, after, split, taken⟩)
        · exact .inl (.inl before)
        · cases before with
          | nil =>
              obtain ⟨rfl, rfl⟩ := List.cons.inj split
              exact .inl (.inr taken)
          | cons first before =>
              obtain ⟨rfl, rfl⟩ := List.cons.inj split
              exact .inr ⟨before, later, after, rfl, taken⟩

/-! ## How a start ends -/

/-- The ends of starts among what a worker does: a failure, or a status if there is one. -/
def endingsOf (actions : List Action) : List (Except String (Option String)) :=
  actions.filterMap fun
    | .started result => some (result.map (·.status))
    | _ => none

/-- Starts end one step after the other. -/
@[simp] theorem endingsOf_append (left right : List Action) :
    endingsOf (left ++ right) = endingsOf left ++ endingsOf right :=
  List.filterMap_append

/-- Whether a worker is started. -/
def Input.isStart : Input -> Bool
  | .start _ _ => true
  | _ => false

/-- The ends of starts in a run, but for those of further starts, which end at once. -/
def endings (node : Node) : List Input -> List (Except String (Option String))
  | [] => []
  | input :: inputs =>
      (if input.isStart then [] else endingsOf (node.act input).2) ++
        endings (node.act input).1 inputs

/--
How a wait for an answer ends: with the first status, or without one when the
timer is due or the worker is stopped; none if it goes on.
-/
def answer (config : Config) : List Input -> Option (Option String)
  | [] => none
  | .receive bytes _ _ _ :: inputs =>
      match statusOf? config bytes with
      | some status => some (some status)
      | none => answer config inputs
  | .fire _ _ :: _ | .stop _ _ :: _ => some none
  | _ :: inputs => answer config inputs

/-- A worker whose start has ended. -/
def HasStarted (node : Node) : Prop :=
  node.phase ≠ .fresh ∧ ∀ deadline, node.phase ≠ .awaiting deadline

/-- Once the wait is over, the worker has started, -/
theorem hasStarted_settle (node : Node) (status : Option String) (now : Int) :
    (node.settle status now).1.HasStarted := by
  simp only [settle, beginBeating, HasStarted]
  split <;> simp

/-- and the start ends with the status that was waited for. -/
theorem endingsOf_settle (node : Node) (status : Option String) (now : Int) :
    endingsOf (node.settle status now).2 = [.ok status] := by
  simp only [settle, beginBeating]
  split <;> rfl

/-- Sending ends no start, -/
theorem endingsOf_transmit (link : Link) (target : Endpoint) (message : Message) :
    endingsOf (transmit link target message []) = [] := by
  cases link <;> rfl

theorem endingsOf_of_not_mem
    {actions : List Action}
    (none : ∀ result, .started result ∉ actions) :
    endingsOf actions = [] := by
  refine List.filterMap_eq_nil_iff.mpr fun action member => ?_
  cases action with
  | started result => exact absurd member (none result)
  | _ => rfl

/-- A heartbeat changes neither phase nor configuration, and ends no start; -/
theorem beat_quiet (node : Node) (now : Int) (link : Link) :
    (node.beat now link).1.phase = node.phase ∧ (node.beat now link).1.stopped = node.stopped ∧
      (node.beat now link).1.config = node.config ∧ endingsOf (node.beat now link).2 = [] := by
  unfold beat
  split
  · exact ⟨rfl, rfl, rfl, rfl⟩
  · cases link <;> exact ⟨rfl, rfl, rfl, rfl⟩

/-- no command does, -/
theorem endingsOf_conclude
    (node : Node)
    (pending : Pending)
    (result : Except String RunResult) :
    endingsOf (node.conclude pending result).2 = [] := by
  cases result with
  | error reason => rfl
  | ok result =>
      simp only [conclude, runWarning]
      split <;> rfl

theorem endingsOf_idle (count : Nat) : endingsOf (List.replicate count .idle) = [] := by
  induction count with
  | zero => rfl
  | succ count ih => exact ih

/-- nor does the end of a job. -/
theorem finish_quiet
    (node : Node)
    (number : Nat)
    (result : Except String RunResult)
    (link : Link) :
    (node.finish number result link).1.phase = node.phase ∧
      (node.finish number result link).1.stopped = node.stopped ∧
      (node.finish number result link).1.config = node.config ∧
      endingsOf (node.finish number result link).2 = [] := by
  unfold finish
  split
  · exact ⟨rfl, rfl, rfl, rfl⟩
  · rename_i pending _
    have reply : endingsOf (if node.stopped then [.report (.replyDropped pending.job)]
        else transmit link pending.replyTo
          (.reply pending.job.kind node.id (node.conclude pending result).1)
            [.report (.replied pending.job)]) = [] := by
      split
      · rfl
      · cases link <;> rfl
    dsimp only
    split
    · exact ⟨rfl, rfl, rfl, by simp [endingsOf_conclude, reply, endingsOf_idle]⟩
    · exact ⟨rfl, rfl, rfl, by simp [endingsOf_conclude, reply]⟩

/-- What is neither a start, a stop, a datagram nor the timer leaves the wait as it is. -/
theorem act_quiet
    (node : Node)
    (input : Input)
    (quiet : match input with
      | .heartbeat _ _ | .whenIdle | .finish _ _ _ => True
      | _ => False) :
    (node.act input).1.phase = node.phase ∧ (node.act input).1.stopped = node.stopped ∧
      (node.act input).1.config = node.config ∧ endingsOf (node.act input).2 = [] := by
  cases input with
  | heartbeat now link =>
      obtain ⟨phase, stopped, config, none⟩ := beat_quiet node now (node.linkOf link)
      refine ⟨phase, stopped, config, ?_⟩
      simp only [act, heartbeat, endingsOf_append, none]
      rfl
  | whenIdle =>
      simp only [act, whenIdle]
      split <;> exact ⟨rfl, rfl, rfl, rfl⟩
  | finish number result link => exact finish_quiet node number result (node.linkOf link)
  | _ => exact absurd quiet not_false

/-- Whether a worker has started is told by its phase. -/
theorem HasStarted.of_phase_eq
    {node next : Node}
    (started : node.HasStarted)
    (phase : next.phase = node.phase) :
    next.HasStarted := by
  unfold HasStarted
  rw [phase]
  exact started

/-- A further start changes nothing. -/
theorem start_of_started
    {node : Node}
    (started : node.phase ≠ .fresh)
    (now : Int)
    (link : Link) :
    (node.start now link).1 = node := by
  have again : node.started = true := by simpa [Node.started] using started
  simp [start, again]

/-- The farewell ends no start either. -/
theorem endingsOf_farewell (node : Node) (link : Link) :
    endingsOf (if node.started then transmit link node.relay (.unregister node.id) []
      else []) = [] := by
  split
  · exact endingsOf_transmit _ _ _
  · rfl

/-- Of the actions of a stop, only the wait that it ends may hold the end of a start. -/
theorem endingsOf_stop (node : Node) (link : Link) (waiting : List Action) :
    endingsOf ((match link, waiting with
      | some _, first :: rest =>
          first :: (if node.started then transmit link node.relay (.unregister node.id) []
            else []) ++ rest
      | _, _ => (if node.started then transmit link node.relay (.unregister node.id) []
          else []) ++ waiting) ++ [.close, .report (.stopped node.id), .stopped]) =
      endingsOf waiting := by
  have last : endingsOf [.close, .report (.stopped node.id), .stopped] = [] := rfl
  have farewell := endingsOf_farewell node link
  rw [endingsOf_append, last, List.append_nil]
  split
  · rename_i reason first rest
    have parts : endingsOf (first :: rest) = endingsOf [first] ++ endingsOf rest :=
      endingsOf_append [first] rest
    rw [parts, List.cons_append, ← List.singleton_append, endingsOf_append, endingsOf_append,
      farewell]
    rfl
  · rw [endingsOf_append, farewell]
    rfl

/-- A stop after the start ends nothing any more. -/
theorem HasStarted.stop
    {node : Node}
    (started : node.HasStarted)
    (now : Int)
    (link : Link) :
    (node.stop now link).1.HasStarted ∧ endingsOf (node.stop now link).2 = [] := by
  unfold Node.stop
  split
  · exact ⟨started, rfl⟩
  · cases phase : node.phase with
    | fresh => exact absurd phase started.1
    | awaiting deadline => exact absurd phase (started.2 deadline)
    | beating next => exact ⟨⟨by simp, by simp⟩, endingsOf_stop node link []⟩
    | quiet => exact ⟨⟨by simp, by simp⟩, endingsOf_stop node link []⟩

theorem HasStarted.receive
    {node : Node}
    (started : node.HasStarted)
    (bytes : Bytes)
    (sender : Endpoint)
    (now : Int)
    (link : Link) :
    (node.receive bytes sender now link).1.HasStarted ∧
      endingsOf (node.receive bytes sender now link).2 = [] := by
  cases stopped : node.stopped with
  | true =>
      simp only [Node.receive, stopped, if_true]
      exact ⟨started, rfl⟩
  | false =>
      rcases receive_cases node bytes sender now link stopped with
        ⟨status, _, taken⟩ | ⟨_, _, phase, _, _, none⟩
      · rw [taken]
        unfold takeStatus
        split
        · rename_i deadline phase
          exact absurd phase (started.2 deadline)
        · split
          · split <;> exact ⟨started, rfl⟩
          · exact ⟨started, rfl⟩
      · exact ⟨started.of_phase_eq phase, endingsOf_of_not_mem none⟩

theorem HasStarted.fire
    {node : Node}
    (started : node.HasStarted)
    (now : Int)
    (link : Link) :
    (node.fire now link).1.HasStarted ∧ endingsOf (node.fire now link).2 = [] := by
  unfold Node.fire
  split
  · rename_i deadline phase
    exact absurd phase (started.2 deadline)
  · dsimp only
    refine ⟨?_, (beat_quiet _ now link).2.2.2⟩
    unfold HasStarted
    rw [(beat_quiet _ now link).1]
    simp
  · exact ⟨started, rfl⟩
  · exact ⟨started, rfl⟩

/-- Once a start has ended, only another start ends a start again. -/
theorem HasStarted.act
    {node : Node}
    (started : node.HasStarted)
    (input : Input) :
    (node.act input).1.HasStarted ∧
      (input.isStart = false -> endingsOf (node.act input).2 = []) := by
  cases input with
  | start now link =>
      simp only [Node.act, start_of_started started.1]
      exact ⟨started, by simp [Input.isStart]⟩
  | stop now link =>
      obtain ⟨next, none⟩ := started.stop now (node.linkOf link)
      exact ⟨next, fun _ => none⟩
  | receive bytes sender now link =>
      obtain ⟨next, none⟩ := started.receive bytes sender now (node.linkOf link)
      exact ⟨next, fun _ => none⟩
  | fire now link =>
      obtain ⟨next, none⟩ := started.fire now (node.linkOf link)
      exact ⟨next, fun _ => none⟩
  | heartbeat now link =>
      have quiet := act_quiet node (.heartbeat now link) trivial
      exact ⟨started.of_phase_eq quiet.1, fun _ => quiet.2.2.2⟩
  | whenIdle =>
      have quiet := act_quiet node .whenIdle trivial
      exact ⟨started.of_phase_eq quiet.1, fun _ => quiet.2.2.2⟩
  | finish number result link =>
      have quiet := act_quiet node (.finish number result link) trivial
      exact ⟨started.of_phase_eq quiet.1, fun _ => quiet.2.2.2⟩

/-- A worker that has started never starts again. -/
theorem HasStarted.endings_eq_nil
    {node : Node}
    (started : node.HasStarted)
    (inputs : List Input) :
    endings node inputs = [] := by
  induction inputs generalizing node with
  | nil => rfl
  | cons input inputs ih =>
      obtain ⟨next, none⟩ := started.act input
      rw [endings, ih next, List.append_nil]
      split
      · rfl
      · rename_i other
        exact none (by simpa using other)

/-! ## The wait for an answer -/

/-- A worker that waits for the answer to its registration. -/
structure Waits (node : Node) (config : Config) : Prop where
  waiting : ∃ deadline, node.phase = .awaiting deadline
  running : node.stopped = false
  config : node.config = config

/-- Whether a worker waits is told by its phase, by whether it was stopped, and by its
configuration. -/
theorem Waits.of_eq
    {node next : Node}
    {config : Config}
    (waits : node.Waits config)
    (phase : next.phase = node.phase)
    (stopped : next.stopped = node.stopped)
    (same : next.config = node.config) :
    next.Waits config :=
  ⟨phase ▸ waits.waiting, stopped.trans waits.running, same.trans waits.config⟩

/-- How a wait ends is how the start ends, and it ends once. -/
theorem Waits.endings_eq
    {node : Node}
    {config : Config}
    (waits : node.Waits config)
    (inputs : List Input) :
    endings node inputs = (answer config inputs).toList.map .ok := by
  induction inputs generalizing node with
  | nil => rfl
  | cons input inputs ih =>
      obtain ⟨deadline, phase⟩ := waits.waiting
      have quiet {input : Input} (noStart : input.isStart = false)
          (same : (node.act input).1.phase = node.phase ∧
            (node.act input).1.stopped = node.stopped ∧
            (node.act input).1.config = node.config ∧ endingsOf (node.act input).2 = []) :
          endings node (input :: inputs) = (answer config inputs).toList.map .ok := by
        rw [endings, noStart, same.2.2.2, ih (waits.of_eq same.1 same.2.1 same.2.2.1)]
        rfl
      cases input with
      | start now link =>
          have again : (node.act (.start now link)).1 = node :=
            start_of_started (by simp [phase]) now _
          rw [endings, again, ih waits]
          rfl
      | stop now link =>
          have stopped : (node.act (.stop now link)).1.HasStarted ∧
              endingsOf (node.act (.stop now link)).2 = [.ok none] := by
            simp only [act, Node.stop, waits.running, phase, Bool.false_eq_true, if_false]
            refine ⟨hasStarted_settle _ none now, ?_⟩
            exact (endingsOf_stop node _ _).trans (endingsOf_settle _ none now)
          rw [endings, stopped.1.endings_eq_nil, List.append_nil]
          exact stopped.2
      | fire now link =>
          have settled : node.act (.fire now link) = node.settle none now := by
            simp [act, fire, phase]
          rw [endings, settled, (hasStarted_settle node none now).endings_eq_nil,
            List.append_nil]
          exact endingsOf_settle node none now
      | receive bytes sender now link =>
          have status : statusOf? config bytes = statusOf? node.config bytes := by
            rw [waits.config]
          rcases receive_cases node bytes sender now (node.linkOf link) waits.running with
            ⟨status, known, taken⟩ | ⟨other, _, samePhase, sameStopped, sameConfig, none⟩
          · have settled : node.act (.receive bytes sender now link) =
                node.settle (some status) now := by
              simp [act, taken, takeStatus, phase]
            rw [waits.config] at known
            rw [endings, settled, (hasStarted_settle node (some status) now).endings_eq_nil,
              List.append_nil]
            simp only [answer, known]
            exact endingsOf_settle node (some status) now
          · rw [waits.config] at other
            simp only [answer, other]
            exact quiet rfl ⟨samePhase, sameStopped, sameConfig, endingsOf_of_not_mem none⟩
      | heartbeat now link => exact quiet rfl (act_quiet node (.heartbeat now link) trivial)
      | whenIdle => exact quiet rfl (act_quiet node .whenIdle trivial)
      | finish number result link =>
          exact quiet rfl (act_quiet node (.finish number result link) trivial)

/-- A first start whose registration gets out waits for the answer. -/
theorem waits_start
    {node : Node}
    (fresh : node.phase = .fresh)
    (running : node.stopped = false)
    (now : Int) :
    (node.act (.start now none)).1.Waits node.config ∧
      endingsOf (node.act (.start now none)).2 = [] := by
  have new : node.started = false := by simp [Node.started, fresh]
  simp only [act, start, linkOf, new, running, Bool.false_eq_true, if_false]
  exact ⟨⟨⟨_, rfl⟩, rfl, rfl⟩, rfl⟩

theorem takeStatus_config (node : Node) (status : String) (now : Int) :
    (node.takeStatus status now).1.config = node.config := by
  unfold takeStatus
  split
  · simp
  · split
    · split <;> rfl
    · rfl

theorem act_config (node : Node) (input : Input) :
    (node.act input).1.config = node.config := by
  cases input with
  | start now link =>
      simp only [act, start]
      split
      · rfl
      · split <;> rfl
  | stop now link =>
      simp only [act, stop]
      split
      · rfl
      · dsimp only
        split <;> simp
  | receive bytes sender now link =>
      cases stopped : node.stopped with
      | true => simp [act, receive, stopped]
      | false =>
          rcases receive_cases node bytes sender now (node.linkOf link) stopped with
            ⟨status, _, taken⟩ | ⟨_, _, _, _, config, _⟩
          · simp only [act, taken, takeStatus_config]
          · exact config
  | fire now link =>
      simp only [act, fire]
      split
      · simp
      · exact (beat_quiet _ now _).2.2.1
      · rfl
      · rfl
  | heartbeat now link => exact (act_quiet node (.heartbeat now link) trivial).2.2.1
  | whenIdle => exact (act_quiet node .whenIdle trivial).2.2.1
  | finish number result link =>
      exact (act_quiet node (.finish number result link) trivial).2.2.1

theorem run_config (node : Node) (inputs : List Input) :
    (node.run inputs).config = node.config := by
  induction inputs generalizing node with
  | nil => rfl
  | cons input inputs ih => rw [run_cons, ih, act_config]

/--
In every run of a new worker, it is registered just if it has taken an `OK`
while it was not stopped, and then stays registered. A first start whose
registration gets out does not end at once; it then ends once, with the first
status that comes before the timer is due or the worker is stopped, or without
one.
-/
theorem registration_exact
    (id : String)
    (relay : Endpoint)
    (config : Config)
    (inputs : List Input) :
    (((new id relay config).run inputs).registered = true ↔
      ∃ before input after, inputs = before ++ input :: after ∧
        ((new id relay config).run before).TakesOk input) ∧
    (∀ more, ((new id relay config).run inputs).registered = true ->
      ((new id relay config).run (inputs ++ more)).registered = true) ∧
    ∀ now after, ((new id relay config).run inputs).phase = .fresh ->
      ((new id relay config).run inputs).stopped = false ->
      endingsOf (((new id relay config).run inputs).act (.start now none)).2 = [] ∧
      endings (((new id relay config).run inputs).act (.start now none)).1 after =
        (answer config after).toList.map .ok := by
  refine ⟨?_, fun more registered => ?_, fun now after fresh running => ?_⟩
  · rw [run_registered]
    simp [new]
  · rw [run_append, run_registered]
    exact .inl registered
  · obtain ⟨waits, none⟩ := waits_start fresh running now
    have same : ((new id relay config).run inputs).config = config := run_config _ inputs
    exact ⟨none, (waits.endings_eq after).trans (by rw [same])⟩

/-- A worker that was started and accepted stays registered when it is stopped; a start that is
answered `FULL` ends with that. -/
theorem registration_exact_accepted :
    ((new "cam-1" default {}).run
      ([.start 0 none, .receive (encode (.registered "OK") 1024) default 1 none] ++
        [.stop 2 none])).registered = true ∧
    endings ((new "cam-1" default {}).act (.start 0 none)).1
        [.heartbeat 1 none, .receive (encode (.registered "FULL") 1024) default 2 none] =
      [.ok (some "FULL")] := by
  have answered : statusOf? {} (encode (.registered "OK") 1024) = some "OK" := by decide +kernel
  obtain ⟨flag, stays, _⟩ := registration_exact "cam-1" default {}
    [.start 0 none, .receive (encode (.registered "OK") 1024) default 1 none]
  have registered := flag.mpr ⟨[.start 0 none],
    .receive (encode (.registered "OK") 1024) default 1 none, [], rfl, rfl, answered⟩
  obtain ⟨_, _, ends⟩ := registration_exact "cam-1" default {} []
  have awaits : answer {}
      [.heartbeat 1 none, .receive (encode (.registered "FULL") 1024) default 2 none] =
      some (some "FULL") := by decide +kernel
  have full := (ends 0
    [.heartbeat 1 none, .receive (encode (.registered "FULL") 1024) default 2 none] rfl rfl).2
  rw [awaits] at full
  exact ⟨stays [.stop 2 none] registered, full⟩

end Node
end Worker
end CameraFleet
