import CameraFleet.Proofs.Relay.Run
import CameraFleet.Relay.Coordinator

/-!
# The timer of a coordinator

The clock never passes a timer that is due, and datagrams arrive at any times.
Then a coordinator that runs has its timer set, within the short period while a
session collects; it sets the timer anew only when the period must become
shorter, so that no traffic keeps an overdue session open.
-/

namespace CameraFleet
namespace Relay

open Device Wire

/-- What a message that arrives at `now` does to the session. -/
structure KeepsSession (before after : Tally) (now : Int) : Prop where
  timeout : after.responseTimeout = before.responseTimeout
  grows : before.sequence ≤ after.sequence
  /-- The session is the one before, with its deadline, or one that was opened just now. -/
  session : ∀ session, after.current = some session ->
    (after.sequence = before.sequence ∧
      ∃ old, before.current = some old ∧ session.deadline = old.deadline) ∨
    session.deadline = now + before.responseTimeout

theorem keepsSession_refl (tally : Tally) (now : Int) : KeepsSession tally tally now :=
  ⟨rfl, Nat.le_refl _, fun session current => .inl ⟨rfl, session, current, rfl⟩⟩

theorem keepsSession_record (tally : Tally) (kind : Kind) (id : String) (now : Int) :
    KeepsSession tally (tally.record kind id now).1 now := by
  cases waiting : tally.pending now with
  | none =>
      rw [Tally.record_of_closed waiting]
      exact ⟨rfl, Nat.le_refl _, by simp [Tally.close]⟩
  | some old =>
      have current := (Tally.pending_eq_some_iff.mp waiting).1
      rw [Tally.record_of_pending waiting]
      split
      · split
        · exact ⟨rfl, Nat.le_refl _, by simp [Tally.close]⟩
        · refine ⟨rfl, Nat.le_refl _, fun session changed => .inl ⟨rfl, old, current, ?_⟩⟩
          rw [← Option.some.inj changed]
          rfl
      · exact keepsSession_refl tally now

/-- A message keeps the session with its deadline, ends it, or opens one just now. -/
theorem keepsSession_dispatch
    (relay : Relay)
    (message : Message)
    (sender : Endpoint)
    (now : Int) :
    KeepsSession relay.tally (relay.dispatch message sender now).relay.tally now := by
  rcases dispatch_lifecycle relay message sender now with
    ⟨kind, rfl⟩ | ⟨kind, id, payload, rfl⟩ | same | ⟨call, called⟩
  · by_cases busy : relay.tally.Busy now
    · obtain ⟨policy, session, current⟩ := busy
      have after : (relay.dispatch (.request kind) sender now).relay = _ :=
        (broadcast_of_busy policy (Tally.pending_eq_some_iff.mpr current) kind sender).1
      rw [after]
      exact keepsSession_refl _ now
    · have after : (relay.dispatch (.request kind) sender now).relay = _ :=
        (broadcast_of_not_busy busy kind sender).1
      rw [after]
      refine ⟨rfl, Nat.le_succ _, fun session current => .inr ?_⟩
      simp only [opened, Tally.openSession] at current
      split at current
      · simp at current
      · rw [← Option.some.inj current]
        rfl
  · rw [(dispatch_reply relay kind id payload sender now).1]
    exact keepsSession_record _ kind id now
  · rw [same]
    exact keepsSession_refl _ now
  · rw [called]
    exact keepsSession_refl _ now

namespace Coordinator

/-! ## Setting and clearing -/

/-- The clock holds the remembered timer, or nothing if that one has gone off. -/
def Holds (coordinator : Coordinator) : Prop :=
  coordinator.pending = coordinator.timer.toList ∨ coordinator.pending = []

/-- When the remembered timer has been cleared, the clock holds none. -/
theorem pending_clearTimer
    {coordinator : Coordinator}
    (holds : coordinator.Holds) :
    coordinator.clearTimer.pending = [] := by
  unfold clearTimer
  cases set : coordinator.timer with
  | none => simpa [Holds, set] using holds
  | some timer =>
      have either : coordinator.pending = [timer] ∨ coordinator.pending = [] := by
        simpa [Holds, set] using holds
      rcases either with only | nothing
      · simp [release, only]
      · simp [release, nothing]

/-- Clearing the timer changes nothing else. -/
theorem clearTimer_eq (coordinator : Coordinator) :
    coordinator.clearTimer =
      { coordinator with timer := none, pending := coordinator.clearTimer.pending } := by
  unfold clearTimer
  split
  · rename_i unset
    rw [← unset]
  · rfl

/-- The timer that is set at a time. -/
def nextTimer (coordinator : Coordinator) (now : Int) : Timer :=
  ⟨coordinator.timersSet, now + coordinator.period, coordinator.period⟩

/-- Setting the timer anew leaves it as the only one, if the clock held no other. -/
theorem schedule_of_running
    {coordinator : Coordinator}
    (running : coordinator.running = true)
    (holds : coordinator.Holds)
    (now : Int) :
    coordinator.schedule now =
      { coordinator with
        timer := some (coordinator.nextTimer now)
        pending := [coordinator.nextTimer now]
        timersSet := coordinator.timersSet + 1 } := by
  rw [schedule, if_pos running, clearTimer_eq, pending_clearTimer holds]
  rfl

/-- What a tick does to a coordinator that runs. -/
theorem tick_coordinator
    {coordinator : Coordinator}
    (running : coordinator.running = true)
    (now : Int) :
    (coordinator.tick now).coordinator =
      { coordinator with
        relay := { coordinator.relay with
          registry :=
            if coordinator.config.timing.sweepPeriod ≤ now - coordinator.lastSweepAt then
              (coordinator.relay.registry.sweep now).1
            else coordinator.relay.registry
          tally := (coordinator.relay.tally.expire now).1 }
        lastSweepAt :=
          if coordinator.config.timing.sweepPeriod ≤ now - coordinator.lastSweepAt then now
          else coordinator.lastSweepAt } := by
  simp only [tick, running, if_true]
  split <;> rfl

/-! ## A coordinator on a clock -/

/--
The states of a coordinator on a clock: the coordinator, the time, and the
number of sessions that there had been when it was last started. Nothing but the
coordinator puts timers on the clock, and a timer that goes off leaves it.
-/
inductive Reaches (config : Config) (here : Endpoint) : Coordinator -> Int -> Nat -> Prop
  /-- A coordinator is made. -/
  | new (now : Int) : Reaches config here (Coordinator.new config here) now 0
  /-- It is started, unless it runs. -/
  | start {coordinator : Coordinator} {now : Int} {since : Nat}
      (reached : Reaches config here coordinator now since)
      (idle : coordinator.running = false) :
      Reaches config here (coordinator.start now).coordinator now coordinator.relay.tally.sequence
  /-- It is stopped. -/
  | stop {coordinator : Coordinator} {now : Int} {since : Nat}
      (reached : Reaches config here coordinator now since) :
      Reaches config here coordinator.stop.coordinator now since
  /-- A datagram arrives. -/
  | receive {coordinator : Coordinator} {now : Int} {since : Nat}
      (reached : Reaches config here coordinator now since)
      (bytes : Bytes) (sender : Endpoint) :
      Reaches config here (coordinator.receive bytes sender now).coordinator now since
  /-- Time passes, but not beyond a timer that the clock holds. -/
  | wait {coordinator : Coordinator} {now : Int} {since : Nat}
      (reached : Reaches config here coordinator now since)
      {later : Int} (order : now ≤ later)
      (due : ∀ timer ∈ coordinator.pending, later ≤ timer.due) :
      Reaches config here coordinator later since
  /-- A timer that is due goes off. -/
  | goOff {coordinator : Coordinator} {now : Int} {since : Nat}
      (reached : Reaches config here coordinator now since)
      {timer : Timer} (held : timer ∈ coordinator.pending) (due : timer.due = now) :
      Reaches config here (coordinator.goOff timer now).coordinator now since

/-- What holds of a timer that is set at any time. -/
structure TimerFits
    (coordinator : Coordinator)
    (now : Int)
    (since : Nat)
    (timer : Timer) : Prop where
  /-- It has not been missed. -/
  ahead : now ≤ timer.due
  /-- It is due within its period. -/
  near : timer.due ≤ now + timer.period
  /-- There are two periods. -/
  period : timer.period = activePeriod ∨ timer.period = idlePeriod
  /-- The period is the short one while a session collects. -/
  fast : coordinator.relay.tally.collecting = true -> timer.period = activePeriod
  /-- It is due soon enough to close a session that was opened since the start. -/
  closes : ∀ session, coordinator.relay.tally.current = some session ->
    since < coordinator.relay.tally.sequence -> timer.due ≤ session.deadline + activePeriod

/-- What holds of a coordinator at any time. -/
structure Timed (coordinator : Coordinator) (now : Int) (since : Nat) : Prop where
  held : coordinator.pending = coordinator.timer.toList
  set : coordinator.timer.isSome = coordinator.running
  fits : ∀ timer, coordinator.timer = some timer -> TimerFits coordinator now since timer
  started : since ≤ coordinator.relay.tally.sequence
  timeout : 0 ≤ coordinator.relay.tally.responseTimeout

theorem period_cases (coordinator : Coordinator) :
    coordinator.period = activePeriod ∨ coordinator.period = idlePeriod := by
  unfold period
  split
  · exact .inl rfl
  · exact .inr rfl

theorem period_pos (coordinator : Coordinator) : 0 < coordinator.period := by
  rcases coordinator.period_cases with same | same <;> rw [same] <;> decide

/-- A timer that is set anew fits, if the session is not overdue or was there at the start. -/
theorem timed_schedule
    {coordinator : Coordinator}
    {now : Int}
    {since : Nat}
    (running : coordinator.running = true)
    (holds : coordinator.Holds)
    (started : since ≤ coordinator.relay.tally.sequence)
    (timeout : 0 ≤ coordinator.relay.tally.responseTimeout)
    (open' : ∀ session, coordinator.relay.tally.current = some session ->
      since < coordinator.relay.tally.sequence -> now ≤ session.deadline) :
    (coordinator.schedule now).Timed now since := by
  rw [schedule_of_running running holds]
  refine ⟨rfl, running.symm, ?_, started, timeout⟩
  rintro timer set
  obtain rfl := Option.some.inj set
  have positive := coordinator.period_pos
  refine ⟨by simp only [nextTimer]; omega, Int.le_refl _, coordinator.period_cases,
    fun collecting => if_pos collecting, fun session current fresh => ?_⟩
  have collecting : coordinator.relay.tally.collecting = true := by
    have current : coordinator.relay.tally.current = some session := current
    simp [Tally.collecting, current]
  have fast : coordinator.period = activePeriod := if_pos collecting
  have := open' session current fresh
  simp only [nextTimer]
  omega

/-- A message keeps the timer fitting. -/
theorem Timed.dispatch
    {coordinator : Coordinator}
    {now : Int}
    {since : Nat}
    (timed : coordinator.Timed now since)
    (running : coordinator.running = true)
    (message : Message)
    (sender : Endpoint) :
    (coordinator.dispatch message sender now).coordinator.Timed now since := by
  have keeps := keepsSession_dispatch coordinator.relay message sender now
  have timeout := keeps.timeout.symm ▸ timed.timeout
  have started := Nat.le_trans timed.started keeps.grows
  obtain ⟨timer, set⟩ := Option.isSome_iff_exists.mp (timed.set.trans running)
  have fits := timed.fits timer set
  -- A session that was opened before has its timer; one that was opened just now is not overdue.
  have closes (session : Session)
      (current : (coordinator.relay.dispatch message sender now).relay.tally.current =
        some session)
      (fresh : since < (coordinator.relay.dispatch message sender now).relay.tally.sequence) :
      timer.due ≤ session.deadline + activePeriod ∨ now ≤ session.deadline := by
    rcases keeps.session session current with ⟨same, old, before, deadline⟩ | deadline
    · left
      rw [deadline]
      exact fits.closes old before (same ▸ fresh)
    · right
      have := timed.timeout
      omega
  simp only [Coordinator.dispatch, hasten]
  split
  · rename_i slow
    refine timed_schedule running (.inl timed.held) started timeout
      fun session current fresh => ?_
    -- The timer had the long period, so there was no session before.
    rcases keeps.session session current with ⟨same, old, before, deadline⟩ | deadline
    · have collecting : coordinator.relay.tally.collecting = true := by
        simp [Tally.collecting, before]
      simp [set, fits.fast collecting] at slow
    · have := timed.timeout
      omega
  · rename_i suited
    refine ⟨timed.held, timed.set, ?_, started, timeout⟩
    rintro other same
    obtain rfl : timer = other := Option.some.inj (set.symm.trans same)
    have fast : (coordinator.relay.dispatch message sender now).relay.tally.collecting = true ->
        timer.period = activePeriod := by
      intro collecting
      simpa [collecting, set] using suited
    refine ⟨fits.ahead, fits.near, fits.period, fast, fun session current fresh => ?_⟩
    rcases closes session current fresh with soon | ahead
    · exact soon
    · have collecting :
          (coordinator.relay.dispatch message sender now).relay.tally.collecting = true := by
        have current : (coordinator.relay.dispatch message sender now).relay.tally.current =
          some session := current
        simp [Tally.collecting, current]
      have := fits.near
      have := fast collecting
      omega

/-- The only timer that the clock holds is the remembered one. -/
theorem Timed.pending_eq
    {coordinator : Coordinator}
    {now : Int}
    {since : Nat}
    (timed : coordinator.Timed now since)
    {timer : Timer}
    (held : timer ∈ coordinator.pending) :
    coordinator.timer = some timer ∧ coordinator.pending = [timer] ∧
      coordinator.running = true := by
  have same := timed.held
  cases set : coordinator.timer with
  | none => simp [same, set] at held
  | some other =>
      obtain rfl : timer = other := by simpa [same, set] using held
      exact ⟨rfl, by simpa [set] using same, by rw [← timed.set, set]; rfl⟩

/-- A coordinator that a timer has left, after its tick. -/
theorem tick_release
    {coordinator : Coordinator}
    {now : Int}
    {since : Nat}
    (timed : coordinator.Timed now since)
    {timer : Timer}
    (held : timer ∈ coordinator.pending) :
    ((coordinator.release timer.handle).tick now).coordinator.running = true ∧
    ((coordinator.release timer.handle).tick now).coordinator.pending = [] ∧
    ((coordinator.release timer.handle).tick now).coordinator.relay.tally =
      (coordinator.relay.tally.expire now).1 := by
  obtain ⟨_, only, running⟩ := timed.pending_eq held
  have still : (coordinator.release timer.handle).running = true := running
  rw [tick_coordinator still]
  exact ⟨running, by simp [release, only], rfl⟩

/-- When a timer has gone off, no session is overdue and the next timer lies ahead. -/
theorem Timed.goOff
    {coordinator : Coordinator}
    {now : Int}
    {since : Nat}
    (timed : coordinator.Timed now since)
    {timer : Timer}
    (held : timer ∈ coordinator.pending) :
    (coordinator.goOff timer now).coordinator.Timed now since ∧
    (∀ next ∈ (coordinator.goOff timer now).coordinator.pending, now < next.due) ∧
    (coordinator.goOff timer now).coordinator.relay.tally =
      (coordinator.relay.tally.expire now).1 := by
  obtain ⟨running, nothing, tally⟩ := tick_release timed held
  simp only [Coordinator.goOff, fire]
  refine ⟨timed_schedule running (.inr nothing) ?_ ?_ fun session current _ => ?_, ?_, ?_⟩
  · rw [tally, Tally.expire_eq]
    exact timed.started
  · rw [tally, Tally.expire_eq]
    exact timed.timeout
  · rw [tally, Tally.expire_eq] at current
    have := (Tally.pending_eq_some_iff.mp current).2
    omega
  · rw [schedule_of_running running (.inr nothing)]
    intro next member
    rw [List.mem_singleton.mp member]
    have := period_pos ((coordinator.release timer.handle).tick now).coordinator
    simp only [nextTimer]
    omega
  · rw [schedule_of_running running (.inr nothing)]
    exact tally

/-- At any time the timer of a coordinator fits. -/
theorem Reaches.timed
    {config : Config}
    {here : Endpoint}
    {coordinator : Coordinator}
    {now : Int}
    {since : Nat}
    (reached : Reaches config here coordinator now since) :
    coordinator.Timed now since := by
  induction reached with
  | new now =>
      refine ⟨rfl, rfl, by simp [Coordinator.new], Nat.zero_le _, ?_⟩
      simp [Coordinator.new, Relay.new]
  | start _ idle ih =>
      simp only [Coordinator.start, idle, Bool.false_eq_true, if_false]
      exact timed_schedule rfl (.inl ih.held) (Nat.le_refl _) ih.timeout
        fun _ _ fresh => absurd fresh (Nat.lt_irrefl _)
  | stop _ ih =>
      simp only [Coordinator.stop]
      split
      · refine ⟨?_, by simp, by simp, by simpa using ih.started, by simpa using ih.timeout⟩
        simpa using pending_clearTimer (.inl ih.held)
      · exact ih
  | receive _ bytes sender ih =>
      simp only [Coordinator.receive]
      split
      · rename_i running
        split
        · exact ih
        · exact ih
        · exact ih.dispatch running _ sender
      · exact ih
  | wait _ order due ih =>
      refine ⟨ih.held, ih.set, fun timer set => ?_, ih.started, ih.timeout⟩
      have fits := ih.fits timer set
      have near := fits.near
      have held : timer ∈ _ := ih.held ▸ Option.mem_toList.mpr set
      exact ⟨due timer held, by omega, fits.period, fits.fast, fits.closes⟩
  | goOff _ held _ ih => exact (ih.goOff held).1

/-- The clock goes on to the timer that it holds, and that one goes off. -/
theorem Reaches.next
    {config : Config}
    {here : Endpoint}
    {coordinator : Coordinator}
    {now : Int}
    {since : Nat}
    (reached : Reaches config here coordinator now since)
    (timer : Timer)
    (only : coordinator.pending = [timer]) :
    Reaches config here (coordinator.goOff timer timer.due).coordinator timer.due since := by
  have held : timer ∈ coordinator.pending := only ▸ List.mem_singleton_self timer
  have timed := reached.timed
  have ahead := (timed.fits timer (timed.pending_eq held).1).ahead
  refine .goOff (.wait reached ahead fun other member => ?_) held rfl
  rw [only, List.mem_singleton] at member
  exact member ▸ Int.le_refl _

/--
While a coordinator runs, the clock holds one timer of it, which has not been
missed and is due within 250 ms if a session collects; a coordinator that does
not run has none. Whenever no timer is due any more, a session that was opened
since the coordinator was last started is less than 250 ms past its deadline.
When a timer goes off, an overdue session is closed, and the next timer lies
ahead.
-/
theorem no_overdue_session
    (config : Config)
    (here : Endpoint)
    (coordinator : Coordinator)
    (now : Int)
    (since : Nat)
    (reached : Reaches config here coordinator now since) :
    (coordinator.running = true ->
      ∃ timer, coordinator.pending = [timer] ∧ now ≤ timer.due ∧
        (coordinator.relay.tally.collecting = true -> timer.due ≤ now + 250)) ∧
    (coordinator.running = false -> coordinator.pending = []) ∧
    (∀ session, coordinator.running = true ->
      coordinator.relay.tally.current = some session ->
      since < coordinator.relay.tally.sequence ->
      (∀ timer ∈ coordinator.pending, now < timer.due) ->
      now < session.deadline + 250) ∧
    ∀ timer ∈ coordinator.pending,
      (∀ next ∈ (coordinator.goOff timer now).coordinator.pending, now < next.due) ∧
      (coordinator.goOff timer now).coordinator.running = true ∧
      ∀ session, coordinator.relay.tally.current = some session ->
        session.deadline ≤ now ->
        .timedOut session ∈ (coordinator.goOff timer now).events ∧
          (coordinator.goOff timer now).coordinator.relay.tally.current = none := by
  have timed := reached.timed
  have isSet (running : coordinator.running = true) :
      ∃ timer, coordinator.timer = some timer ∧ coordinator.pending = [timer] := by
    obtain ⟨timer, set⟩ := Option.isSome_iff_exists.mp (timed.set.trans running)
    exact ⟨timer, set, by rw [timed.held, set]; rfl⟩
  refine ⟨fun running => ?_, fun idle => ?_, fun session running current fresh gone => ?_,
    fun timer held => ?_⟩
  · obtain ⟨timer, set, only⟩ := isSet running
    have fits := timed.fits timer set
    refine ⟨timer, only, fits.ahead, fun collecting => ?_⟩
    have near := fits.near
    rwa [fits.fast collecting] at near
  · have unset : coordinator.timer = none := by
      simpa [idle] using timed.set
    rw [timed.held, unset]
    rfl
  · obtain ⟨timer, set, only⟩ := isSet running
    have closes := (timed.fits timer set).closes session current fresh
    have := gone timer (only ▸ List.mem_singleton_self timer)
    have : activePeriod = 250 := rfl
    omega
  · obtain ⟨after, ahead, tally⟩ := timed.goOff held
    refine ⟨ahead, ?_, fun session current late => ⟨?_, ?_⟩⟩
    · obtain ⟨running, nothing, _⟩ := tick_release timed held
      simp only [Coordinator.goOff, fire, schedule_of_running running (.inr nothing)]
      exact running
    · have running : (coordinator.release timer.handle).running = true :=
        (timed.pending_eq held).2.2
      have overdue : coordinator.relay.tally.overdue now = some session :=
        Tally.overdue_eq_some_iff.mpr ⟨current, late⟩
      have expired : ((coordinator.release timer.handle).relay.tally.expire now).2 =
          some session := by
        rw [Tally.expire_eq]
        exact overdue
      simp only [Coordinator.goOff, fire, tick, running, if_true]
      split <;> simp [expired, timeoutEvents]
    · rw [tally, Tally.expire_eq]
      simp [Tally.pending, current, late]

/-- A coordinator that was asked twice: the timer goes on as the first broadcast has set it,
and the second one gave the first up. -/
def askedTwice : Coordinator :=
  let started := ((new { broadcastPolicy := .replace } default).start 0).coordinator
  let joined := (started.receive (Utf8.ofString "REGISTER:a\n") ⟨"10.0.0.1", 5001⟩ 0).coordinator
  let asked := (joined.receive (Utf8.ofString "TIME_REQUEST\n") ⟨"10.0.0.9", 6000⟩ 10).coordinator
  (asked.receive (Utf8.ofString "LS_REQUEST\n") ⟨"10.0.0.9", 6000⟩ 100).coordinator

/-- Its timer, from the first time it goes off. -/
def askedTwiceTimer (count : Nat) : Timer :=
  ⟨count + 1, 260 + 250 * count, activePeriod⟩

/-- The coordinator after its timer has gone off a number of times. -/
def askedTwiceAfter : Nat -> Coordinator
  | 0 => askedTwice
  | count + 1 =>
      ((askedTwiceAfter count).goOff (askedTwiceTimer count) (askedTwiceTimer count).due).coordinator

theorem pending_askedTwiceAfter : (askedTwiceAfter 8).pending = [askedTwiceTimer 8] := by
  decide +kernel

theorem reaches_askedTwiceAfter {now : Int} (order : 2010 ≤ now) (due : now ≤ 2260) :
    Reaches { broadcastPolicy := .replace } default (askedTwiceAfter 8) now 0 := by
  have at100 : Reaches { broadcastPolicy := .replace } default (askedTwiceAfter 0) 100 0 := by
    refine .receive (.wait (.receive (.wait (.receive (.start (.new 0) rfl) _ _) ?_ ?_) _ _)
      ?_ ?_) _ _
    all_goals decide +kernel
  have at260 := at100.next (askedTwiceTimer 0) (by decide +kernel)
  have at510 := at260.next (askedTwiceTimer 1) (by decide +kernel)
  have at760 := at510.next (askedTwiceTimer 2) (by decide +kernel)
  have at1010 := at760.next (askedTwiceTimer 3) (by decide +kernel)
  have at1260 := at1010.next (askedTwiceTimer 4) (by decide +kernel)
  have at1510 := at1260.next (askedTwiceTimer 5) (by decide +kernel)
  have at1760 := at1510.next (askedTwiceTimer 6) (by decide +kernel)
  have at2010 := at1760.next (askedTwiceTimer 7) (by decide +kernel)
  refine .wait at2010 order fun timer held => ?_
  have held : timer ∈ (askedTwiceAfter 8).pending := held
  rw [pending_askedTwiceAfter, List.mem_singleton] at held
  exact held ▸ due

/-- A session that is overdue by 100 ms and still collects; the tick at 2260 closes it. -/
theorem no_overdue_session_replaced :
    Reaches { broadcastPolicy := .replace } default (askedTwiceAfter 8) 2200 0 ∧
    (askedTwiceAfter 8).relay.tally.collecting = true ∧
    (askedTwiceAfter 8).relay.tally.current.map (·.deadline) = some 2100 ∧
    (2200 : Int) < 2100 + 250 ∧
    (askedTwiceAfter 8).pending.map (·.due) = [2260] ∧ (2260 : Int) ≤ 2200 + 250 ∧
    (askedTwiceAfter 9).relay.tally.current = none ∧
    (askedTwiceAfter 9).pending.map (·.due) = [3260] := by
  have collecting : (askedTwiceAfter 8).relay.tally.collecting = true := by decide +kernel
  have running : (askedTwiceAfter 8).running = true := by decide +kernel
  have deadline : (askedTwiceAfter 8).relay.tally.current.map (·.deadline) = some 2100 := by
    decide +kernel
  obtain ⟨session, current, late⟩ := Option.map_eq_some_iff.mp deadline
  have reached := reaches_askedTwiceAfter (by decide : (2010 : Int) ≤ 2200) (by decide)
  obtain ⟨one, _, open', _⟩ := no_overdue_session _ _ _ _ _ reached
  obtain ⟨timer, held, _, near⟩ := one running
  obtain rfl : askedTwiceTimer 8 = timer := by simpa [pending_askedTwiceAfter] using held
  have soon := open' session running current (by decide +kernel) (by decide +kernel)
  have due := reaches_askedTwiceAfter (by decide : (2010 : Int) ≤ 2260) (by decide)
  have off := (no_overdue_session _ _ _ _ _ due).2.2.2 (askedTwiceTimer 8)
    (pending_askedTwiceAfter ▸ List.mem_singleton_self _)
  exact ⟨reached, collecting, deadline, late ▸ soon, by rw [held]; rfl, near collecting,
    (off.2.2 session current (by omega)).2, by decide +kernel⟩

end Coordinator
end Relay
end CameraFleet
