import CameraFleet.Proofs.Fleet.Basic
import Mathlib.Data.List.Nodup

/-!
# The session of a broadcast

The session counts the replies that reach the relay, until all have or its
deadline has come. It is closed once, as complete in the one case and as timed out
in the other, and what comes after that goes to the controller all the same.
-/

namespace CameraFleet

open Device Relay Wire Worker

/-- A sweep leaves the live devices active. -/
theorem Device.Registry.active_sweep (registry : Registry) (now : Int) :
    (registry.sweep now).1.active = registry.live now := by
  have kept (record : Record) :
      (if record.Stale now registry.livenessTimeout then record.deactivate else record).active =
        (decide (now - record.lastHeartbeat ≤ registry.livenessTimeout) && record.active) := by
    by_cases recent : now - record.lastHeartbeat ≤ registry.livenessTimeout
    · have spared : ¬ record.Stale now registry.livenessTimeout :=
        fun stale => absurd stale.2 (Int.not_lt.mpr recent)
      rw [if_neg spared, decide_eq_true recent, Bool.true_and]
    · rw [decide_eq_false recent, Bool.false_and]
      cases active : record.active with
      | false =>
          split
          · rfl
          · exact active
      | true => rw [if_pos ⟨active, Int.not_le.mp recent⟩, Record.deactivate]
  have spared : ∀ record ∈ registry.live now,
      (if record.Stale now registry.livenessTimeout then record.deactivate else record) =
        record := by
    intro record member
    have recent := of_decide_eq_true (List.mem_filter.mp member).2
    exact if_neg fun stale => absurd stale.2 (Int.not_lt.mpr recent)
  have same : registry.live now = registry.records.filter fun record =>
      decide (now - record.lastHeartbeat ≤ registry.livenessTimeout) && record.active :=
    List.filter_filter
  rw [Registry.sweep, Registry.sweepWith, Registry.active, List.filter_map]
  simp only [Function.comp_def, kept]
  rw [← same, List.map_congr_left spared, List.map_id']

namespace Relay

/-- Quiet events open no session and close none. -/
theorem lists_of_quiet
    {events : List Event}
    (quiet : ∀ event ∈ events, Quiet event) :
    events.filterMap (·.opened?) = [] ∧ events.filter (·.closed?.isSome) = [] := by
  constructor
  · exact List.filterMap_eq_nil_iff.mpr fun event member => (quiet event member).1
  · exact List.filter_eq_nil_iff.mpr fun event member => by simp [(quiet event member).2]

/-- An expiry opens no session, and closes the one that ran out of time. -/
theorem lists_timeoutEvents (expired : Option Session) :
    (timeoutEvents expired).filterMap (·.opened?) = [] ∧
    (timeoutEvents expired).filter (·.closed?.isSome) = timeoutEvents expired := by
  cases expired <;> exact ⟨rfl, rfl⟩

/-- A reply that is forwarded. -/
theorem dispatch_reply_of_forwarded
    {relay : Relay}
    {kind : Kind}
    {id : String}
    {now : Int}
    {goal : Endpoint}
    (forward : (relay.tally.record kind id now).2.forwardTo = some goal)
    (payload : String)
    (sender : Endpoint) :
    (relay.dispatch (.reply kind id payload) sender now).out = [⟨goal, .reply kind id payload⟩] ∧
    (relay.dispatch (.reply kind id payload) sender now).events.filterMap (·.opened?) = [] ∧
    (relay.dispatch (.reply kind id payload) sender now).events.filter (·.closed?.isSome) =
      timeoutEvents (relay.tally.record kind id now).2.expired ++
        ((relay.tally.record kind id now).2.completed.map Event.completed).toList := by
  obtain ⟨opens, closes⟩ := lists_timeoutEvents (relay.tally.record kind id now).2.expired
  simp only [dispatch, reply, forward]
  refine ⟨trivial, ?_, ?_⟩
  · rw [List.filterMap_append, List.filterMap_append, opens]
    cases (relay.tally.record kind id now).2.completed <;> rfl
  · rw [List.filter_append, List.filter_append, closes]
    cases (relay.tally.record kind id now).2.completed <;> simp [Event.closed?]

/-- A broadcast when no session collects goes to the live devices. -/
theorem dispatch_request_of_idle
    {relay : Relay}
    {now : Int}
    (idle : relay.tally.current = none)
    (somebody : relay.registry.live now ≠ [])
    (kind : Kind)
    (sender : Endpoint) :
    ∃ opened, opened = Session.new (relay.tally.sequence + 1) kind sender
        ((relay.registry.live now).map (·.id)) now relay.tally.responseTimeout ∧
      (relay.dispatch (.request kind) sender now).relay.tally.current = some opened ∧
      (relay.dispatch (.request kind) sender now).relay.tally.lastRequester = some sender ∧
      (relay.dispatch (.request kind) sender now).out =
        (relay.registry.live now).map (fun record => ⟨record.address, .request kind⟩) ∧
      (relay.dispatch (.request kind) sender now).events.filterMap (·.opened?) = [opened] ∧
      (relay.dispatch (.request kind) sender now).events.filter (·.closed?.isSome) = [] := by
  have free : ¬ relay.tally.Busy now := by
    rintro ⟨_, session, current, _⟩
    simp [idle] at current
  have ended : relay.tally.overdue now = none := by simp [Tally.overdue, idle]
  have waiting : relay.tally.pending now = none := by simp [Tally.pending, idle]
  obtain ⟨opens, closes⟩ := lists_of_quiet (quiet_sweepEvents (relay.registry.sweep now).2)
  have events : (relay.dispatch (.request kind) sender now).events =
      sweepEvents (relay.registry.sweep now).2 ++
        [.forwarding kind (relay.registry.live now).length
          (Session.new (relay.tally.sequence + 1) kind sender
            ((relay.registry.live now).map (·.id)) now relay.tally.responseTimeout)] := by
    simp only [dispatch, broadcast, Tally.begin_of_not_busy free, ended, waiting,
      Registry.active_sweep]
    simp [somebody, timeoutEvents]
  refine ⟨_, rfl, ?_, ?_, ?_, ?_, ?_⟩
  · simp [dispatch, broadcast, Tally.begin_of_not_busy free, Registry.active_sweep, somebody]
  · simp [dispatch, broadcast, Tally.begin_of_not_busy free, Registry.active_sweep, somebody]
  · simp [dispatch, broadcast, Tally.begin_of_not_busy free, Registry.active_sweep, somebody]
  · rw [events, List.filterMap_append, opens]
    rfl
  · rw [events, List.filter_append, closes]
    rfl

namespace Coordinator

/-- What a tick does to a coordinator that runs, if anything. -/
structure Ticks (coordinator : Coordinator) (now : Int) (result : Result) : Prop where
  running : result.coordinator.running = true
  config : result.coordinator.config = coordinator.config
  silent : result.out = []
  tally : result.coordinator.relay.tally = (coordinator.relay.tally.expire now).1
  registry : result.coordinator.relay.registry = coordinator.relay.registry ∨
    result.coordinator.relay.registry = (coordinator.relay.registry.sweep now).1
  opens : result.events.filterMap (·.opened?) = []
  closes : result.events.filter (·.closed?.isSome) =
    timeoutEvents (coordinator.relay.tally.expire now).2

theorem ticks_tick
    {coordinator : Coordinator}
    (running : coordinator.running = true)
    (now : Int) :
    coordinator.Ticks now (coordinator.tick now) := by
  obtain ⟨opens, closes⟩ := lists_timeoutEvents (coordinator.relay.tally.expire now).2
  simp only [Coordinator.tick, running, if_true]
  split
  · obtain ⟨opens', closes'⟩ :=
      lists_of_quiet (quiet_sweepEvents (coordinator.relay.registry.sweep now).2)
    refine ⟨rfl, rfl, rfl, rfl, .inr rfl, ?_, ?_⟩
    · simp only [List.filterMap_append, opens, opens', List.append_nil]
    · simp only [List.filter_append, closes, closes', List.append_nil]
  · exact ⟨rfl, rfl, rfl, rfl, .inl rfl, opens, closes⟩

/-- A timer that goes off ticks, and is set anew. -/
theorem ticks_goOff
    {coordinator : Coordinator}
    (running : coordinator.running = true)
    (timer : Timer)
    (now : Int) :
    coordinator.Ticks now (coordinator.goOff timer now) := by
  have released : (coordinator.release timer.handle).running = true := running
  have ticks := ticks_tick released now
  obtain ⟨relay, runs, config, _⟩ :=
    schedule_relay ((coordinator.release timer.handle).tick now).coordinator now
  have registry : (coordinator.goOff timer now).coordinator.relay.registry =
      ((coordinator.release timer.handle).tick now).coordinator.relay.registry :=
    congrArg (·.registry) relay
  exact
    { running := runs.trans ticks.running
      config := config.trans ticks.config
      silent := ticks.silent
      tally := (congrArg (·.tally) relay).trans ticks.tally
      registry := registry ▸ ticks.registry
      opens := ticks.opens
      closes := ticks.closes }

end Coordinator
end Relay

namespace Fleet

/-! ## The session -/

/-- A session that some devices have answered. -/
def answered (opened : Session) (ids : List String) : Session :=
  { opened with responded := ids, receivedCount := ids.length }

/-- The devices of replies. -/
def devices (replies : List (Int × Kind × String)) : List String :=
  replies.map (·.2.2)

/-- The session of a broadcast of the controller to devices. -/
structure Opened
    (desk : Endpoint)
    (kind : Kind)
    (ids : List String)
    (timeout : Int)
    (opened : Session) : Prop where
  kind : opened.kind = kind
  requester : opened.requester = desk
  deadline : opened.deadline = opened.startedAt + timeout
  targets : opened.targets.Perm ids
  expected : opened.expectedCount = ids.length

/--
How far the session has come: it collects, and not all have answered yet; all
have, before the deadline; or the deadline has come before all had.
-/
inductive Progress
    (opened : Session)
    (size : Nat)
    (now : Int)
    (replies : List (Int × Kind × String))
    (closings : List Relay.Event)
    (tally : Tally) : Prop
  | collecting
      (current : tally.current = some (answered opened (devices replies)))
      (early : ∀ reply ∈ replies, reply.1 < opened.deadline)
      (few : replies.length < size)
      (unclosed : closings = [])
  | completed {session : Session}
      (current : tally.current = none)
      (early : ∀ reply ∈ replies, reply.1 < opened.deadline)
      (all : replies.length = size)
      (closed : closings = [.completed session])
      (name : session.id = opened.id)
  | timedOut {session : Session}
      (current : tally.current = none)
      (past : opened.deadline ≤ now)
      (few : (replies.filter (·.1 < opened.deadline)).length < size)
      (closed : closings = [.timedOut session])
      (name : session.id = opened.id)

section Session

variable {opened : Session} {size : Nat} {now : Int} {replies : List (Int × Kind × String)}
variable {closings : List Relay.Event} {tally : Tally}

/-- Time alone closes no session. -/
theorem Progress.wait
    (progress : Progress opened size now replies closings tally)
    {later : Int}
    (order : now ≤ later) :
    Progress opened size later replies closings tally := by
  cases progress with
  | collecting current early few unclosed => exact .collecting current early few unclosed
  | completed current early all closed name => exact .completed current early all closed name
  | timedOut current past few closed name =>
      exact .timedOut current (Int.le_trans past order) few closed name

/-- An expiry closes the session if its deadline has come. -/
theorem Progress.expire (progress : Progress opened size now replies closings tally) :
    Progress opened size now replies (closings ++ timeoutEvents (tally.expire now).2)
      (tally.expire now).1 := by
  cases progress with
  | collecting current early few unclosed =>
      by_cases soon : now < opened.deadline
      · have same : tally.expire now = (tally, none) := by
          simp [Tally.expire, current, answered, soon]
        rw [same]
        exact .collecting current early few (by simp [unclosed, timeoutEvents])
      · have closes : tally.expire now =
            ({ tally with current := none }, some (answered opened (devices replies))) := by
          simp [Tally.expire, current, answered, soon]
        have ends : closings ++ timeoutEvents (some (answered opened (devices replies))) =
            [.timedOut (answered opened (devices replies))] := by
          rw [unclosed]
          rfl
        rw [closes]
        exact .timedOut rfl (Int.not_lt.mp soon)
          (Nat.lt_of_le_of_lt (List.length_filter_le _ _) few) ends rfl
  | completed current early all closed name =>
      have same : tally.expire now = (tally, none) := by simp [Tally.expire, current]
      rw [same]
      exact .completed current early all (by simp [closed, timeoutEvents]) name
  | timedOut current past few closed name =>
      have same : tally.expire now = (tally, none) := by simp [Tally.expire, current]
      rw [same]
      exact .timedOut current past few (by simp [closed, timeoutEvents]) name

/-- The reply of a device that has not answered is counted or late, and goes to the controller. -/
theorem Progress.record
    {desk : Endpoint}
    {kind : Kind}
    {ids : List String}
    {timeout : Int}
    (opens : Opened desk kind ids timeout opened)
    (progress : Progress opened ids.length now replies closings tally)
    (asked : tally.lastRequester = some desk)
    {id : String}
    (target : id ∈ ids)
    (unheard : id ∉ devices replies)
    (missing : replies.length < ids.length) :
    (tally.record kind id now).2.forwardTo = some desk ∧
    (tally.record kind id now).1.lastRequester = some desk ∧
    Progress opened ids.length now (replies ++ [(now, kind, id)])
      (closings ++ (timeoutEvents (tally.record kind id now).2.expired ++
        ((tally.record kind id now).2.completed.map Event.completed).toList))
      (tally.record kind id now).1 := by
  have longer : devices (replies ++ [(now, kind, id)]) = devices replies ++ [id] := by
    simp [devices]
  have length : (devices replies).length = replies.length := List.length_map _
  -- A reply at the deadline or later is not among those that came in time.
  have late (past : opened.deadline ≤ now) :
      ((replies ++ [(now, kind, id)]).filter (·.1 < opened.deadline)).length < ids.length := by
    have gone : ¬ now < opened.deadline := Int.not_lt.mpr past
    have few := List.length_filter_le (fun reply => decide (reply.1 < opened.deadline)) replies
    simp only [List.filter_append, List.filter_cons, gone, decide_false, Bool.false_eq_true,
      if_false, List.filter_nil, List.append_nil]
    omega
  cases progress with
  | completed current early all closed name => omega
  | timedOut current past few closed name =>
      have gone : tally.pending now = none := by simp [Tally.pending, current]
      have none : tally.overdue now = none := by simp [Tally.overdue, current]
      rw [Tally.record_of_closed gone, none]
      exact ⟨asked, asked, .timedOut rfl past (late past)
        (by simp [closed, timeoutEvents]) name⟩
  | collecting current early few unclosed =>
      by_cases soon : now < opened.deadline
      · have waiting : tally.pending now = some (answered opened (devices replies)) :=
          Tally.pending_eq_some_iff.mpr ⟨current, soon⟩
        have counts : (answered opened (devices replies)).Counts kind id :=
          ⟨opens.kind.symm, opens.targets.mem_iff.mpr target, unheard⟩
        have tallied : (answered opened (devices replies)).tally id =
            answered opened (devices (replies ++ [(now, kind, id)])) := by
          simp [answered, Session.tally, longer]
        have expected := opens.expected
        have early' : ∀ reply ∈ replies ++ [(now, kind, id)], reply.1 < opened.deadline := by
          intro reply member
          rcases List.mem_append.mp member with old | new
          · exact early reply old
          · exact List.mem_singleton.mp new ▸ soon
        have grown : (replies ++ [(now, kind, id)]).length = replies.length + 1 := by simp
        rw [Tally.record_of_pending waiting, if_pos counts, tallied]
        split
        · rename_i complete
          have whole : ids.length ≤ replies.length + 1 := by
            simpa [Session.Complete, answered, longer, length, expected] using complete
          have ends : closings ++ (timeoutEvents none ++ ((some (answered opened
              (devices (replies ++ [(now, kind, id)])))).map Event.completed).toList) =
              [.completed (answered opened (devices (replies ++ [(now, kind, id)])))] := by
            rw [unclosed]
            rfl
          exact ⟨congrArg some opens.requester, asked,
            .completed rfl early' (by omega) ends rfl⟩
        · rename_i incomplete
          have more : ¬ ids.length ≤ replies.length + 1 := by
            simpa [Session.Complete, answered, longer, length, expected] using incomplete
          exact ⟨congrArg some opens.requester, asked, .collecting rfl early' (by omega)
            (by simp [unclosed, timeoutEvents])⟩
      · have past := Int.not_lt.mp soon
        have gone : tally.pending now = none := by
          simp [Tally.pending, current, answered, past]
        have ended : tally.overdue now = some (answered opened (devices replies)) :=
          Tally.overdue_eq_some_iff.mpr ⟨current, past⟩
        have ends : closings ++ (timeoutEvents (some (answered opened (devices replies))) ++
            ((none : Option Session).map Event.completed).toList) =
            [.timedOut (answered opened (devices replies))] := by
          rw [unclosed]
          rfl
        rw [Tally.record_of_closed gone, ended]
        exact ⟨asked, asked, .timedOut rfl past (late past) ends rfl⟩

end Session

end Fleet
end CameraFleet
