import CameraFleet.Proofs.Coordinator.Steps
import CameraFleet.Proofs.Coordinator.Timer
import CameraFleet.Proofs.Relay.Records

/-!
# Devices that fall silent

The timer is at most 1250 ms apart from one tick to the next, since opening a
session can put it off once; a tick sweeps the registry when the sweep period
has passed. So no device stays active for much longer than it may be silent,
whether or not anybody ever asks for anything.
-/

namespace CameraFleet
namespace Relay

open Device Wire

/-- A device that is active has been heard of since a time. -/
def HeardSince (bound : Int) (record : Record) : Prop :=
  record.active = true -> bound ≤ record.lastHeartbeat

/-- A message counts as a sign of life now, or leaves the signs of life as they are. -/
theorem keptBy_heardSince {bound now : Int} (order : bound ≤ now) (sender : Endpoint) :
    KeptBy (HeardSince bound) sender now where
  renews := fun _ _ _ => order
  makes := fun _ _ => order
  beats := fun _ _ _ => order
  deactivates := fun _ _ active => by simp [Record.deactivate] at active

/-- After a sweep every active device has been heard of within the timeout. -/
theorem heardSince_sweepWith (registry : Registry) (now timeout : Int) :
    OfRecords (HeardSince (now - timeout)) (registry.sweepWith now timeout).1 := by
  intro record member active
  obtain ⟨before, known, rfl⟩ := List.mem_map.mp member
  split at active
  · simp [Record.deactivate] at active
  · rename_i fresh
    rw [if_neg fresh]
    have silent : ¬ timeout < now - before.lastHeartbeat := fun late => fresh ⟨active, late⟩
    omega

namespace Coordinator

/-- The states of a coordinator that was started once, with no devices, and runs on a clock. -/
inductive Runs (config : Config) (here : Endpoint) : Coordinator -> Int -> Prop
  /-- It is started. -/
  | start (now : Int) :
      Runs config here ((Coordinator.new config here).start now).coordinator now
  /-- A datagram arrives. -/
  | receive {coordinator : Coordinator} {now : Int} (runs : Runs config here coordinator now)
      (bytes : Bytes) (sender : Endpoint) :
      Runs config here (coordinator.receive bytes sender now).coordinator now
  /-- Time passes, but not beyond a timer that the clock holds. -/
  | wait {coordinator : Coordinator} {now : Int} (runs : Runs config here coordinator now)
      {later : Int} (order : now ≤ later)
      (due : ∀ timer ∈ coordinator.pending, later ≤ timer.due) :
      Runs config here coordinator later
  /-- A timer that is due goes off. -/
  | goOff {coordinator : Coordinator} {now : Int} (runs : Runs config here coordinator now)
      {timer : Timer} (held : timer ∈ coordinator.pending) (due : timer.due = now) :
      Runs config here (coordinator.goOff timer now).coordinator now

theorem Runs.reaches
    {config : Config}
    {here : Endpoint}
    {coordinator : Coordinator}
    {now : Int}
    (runs : Runs config here coordinator now) :
    Reaches config here coordinator now 0 := by
  induction runs with
  | start now => exact .start (.new now) rfl
  | receive _ bytes sender ih => exact .receive ih bytes sender
  | wait _ order due ih => exact .wait ih order due
  | goOff _ held due ih => exact .goOff ih held due

/-- The longest time from a tick to the next one, by the period of the timer that is set. -/
def longestGap (timer : Timer) : Int :=
  if timer.period = activePeriod then idlePeriod + activePeriod else idlePeriod

/--
How the timer, the last tick, the last sweep and the signs of life belong
together: the next tick is soon enough after the last one, which was soon enough
after the last sweep, and that left no device active that had been silent.
-/
structure Watches (config : Config) (coordinator : Coordinator) (now lastTick : Int) : Prop where
  running : coordinator.running = true
  sameConfig : coordinator.config = config
  liveness : coordinator.relay.registry.livenessTimeout = config.timing.livenessTimeout
  swept : coordinator.lastSweepAt ≤ lastTick
  past : lastTick ≤ now
  due : lastTick - coordinator.lastSweepAt ≤ config.timing.sweepPeriod
  next : ∀ timer ∈ coordinator.pending, timer.due ≤ lastTick + longestGap timer
  heard : OfRecords (HeardSince (coordinator.lastSweepAt - config.timing.livenessTimeout))
    coordinator.relay.registry

/-- A timer that is set at a tick leaves at most the idle period to the next one. -/
theorem due_nextTimer (coordinator : Coordinator) (now : Int) :
    (coordinator.nextTimer now).due ≤ now + longestGap (coordinator.nextTimer now) := by
  have fast : activePeriod = 250 := rfl
  have slow : idlePeriod = 1000 := rfl
  rcases period_cases coordinator with same | same <;>
    simp only [nextTimer, longestGap, same] <;> split <;> omega

/-- Hastening the timer puts it off once, to a short period after it would have been due. -/
theorem due_hasten
    {before after : Coordinator}
    {now lastTick : Int}
    (timed : before.Timed now 0)
    (running : before.running = true)
    (sameTimer : after.timer = before.timer)
    (samePending : after.pending = before.pending)
    (sameRunning : after.running = before.running)
    (next : ∀ timer ∈ before.pending, timer.due ≤ lastTick + longestGap timer) :
    ∀ timer ∈ (after.hasten now).pending, timer.due ≤ lastTick + longestGap timer := by
  intro timer held
  obtain ⟨old, set⟩ := Option.isSome_iff_exists.mp (timed.set.trans running)
  have fits := timed.fits old set
  have soon := next old (timed.held ▸ Option.mem_toList.mpr set)
  unfold hasten at held
  split at held
  · rename_i slow
    simp only [Bool.and_eq_true] at slow
    have notFast : old.period ≠ activePeriod := by
      intro fast
      simp [sameTimer, set, fast] at slow
    have fast : after.period = activePeriod := if_pos slow.1
    have holds : after.Holds := .inl (by rw [samePending, sameTimer, timed.held])
    rw [schedule_of_running (sameRunning.trans running) holds, List.mem_singleton] at held
    have ahead := fits.ahead
    simp only [held, nextTimer, longestGap, fast, if_true, notFast, if_false] at soon ⊢
    omega
  · exact next timer (samePending ▸ held)

/-- A message counts as a sign of life and may hasten the timer. -/
theorem Watches.receive
    {config : Config}
    {coordinator : Coordinator}
    {now lastTick : Int}
    (watches : coordinator.Watches config now lastTick)
    (timed : coordinator.Timed now 0)
    (bytes : Bytes)
    (sender : Endpoint) :
    (coordinator.receive bytes sender now).coordinator.Watches config now lastTick := by
  simp only [Coordinator.receive, watches.running, if_true]
  split
  · exact watches
  · exact watches
  · rename_i message _
    let changed : Coordinator :=
      { coordinator with relay := (coordinator.relay.dispatch message sender now).relay }
    obtain ⟨relay, running, same, sweep⟩ := hasten_relay changed now
    have swept := watches.swept
    have past := watches.past
    refine ⟨running.trans watches.running, same.trans watches.sameConfig, ?_, ?_, past, ?_, ?_,
      ?_⟩
    · exact (congrArg (·.registry.livenessTimeout) relay).trans
        ((livenessTimeout_advance _ (.take message sender now)).trans watches.liveness)
    · exact sweep ▸ swept
    · exact sweep ▸ watches.due
    · exact @due_hasten coordinator changed now lastTick timed watches.running rfl rfl rfl
        watches.next
    · have order : coordinator.lastSweepAt - config.timing.livenessTimeout ≤ now := by omega
      have heard := watches.heard.dispatch (keptBy_heardSince order sender) message
      exact sweep ▸ relay ▸ heard

/-- When the timer goes off, the registry is swept if that is due. -/
theorem Watches.goOff
    {config : Config}
    {coordinator : Coordinator}
    {now lastTick : Int}
    (watches : coordinator.Watches config now lastTick)
    (timed : coordinator.Timed now 0)
    {timer : Timer}
    (held : timer ∈ coordinator.pending) :
    (coordinator.goOff timer now).coordinator.Watches config now now := by
  have running : (coordinator.release timer.handle).running = true := watches.running
  obtain ⟨still, nothing, _⟩ := tick_release timed held
  simp only [Coordinator.goOff, fire, schedule_of_running still (.inr nothing)]
  have next : ∀ other ∈
      [((coordinator.release timer.handle).tick now).coordinator.nextTimer now],
      other.due ≤ now + longestGap other := by
    intro other member
    rw [List.mem_singleton.mp member]
    exact due_nextTimer _ now
  rw [tick_coordinator running] at next ⊢
  have swept := watches.swept
  have past := watches.past
  by_cases due : coordinator.config.timing.sweepPeriod ≤ now - coordinator.lastSweepAt
  · have sweeps : ((coordinator.release timer.handle).config.timing.sweepPeriod : Int) ≤
        now - (coordinator.release timer.handle).lastSweepAt := due
    simp only [if_pos sweeps] at next ⊢
    refine ⟨watches.running, watches.sameConfig, watches.liveness, Int.le_refl _, Int.le_refl _,
      by simp, next, ?_⟩
    have heard := heardSince_sweepWith coordinator.relay.registry now
      coordinator.relay.registry.livenessTimeout
    exact watches.liveness ▸ heard
  · have waits : ¬ ((coordinator.release timer.handle).config.timing.sweepPeriod : Int) ≤
        now - (coordinator.release timer.handle).lastSweepAt := due
    simp only [if_neg waits] at next ⊢
    refine ⟨watches.running, watches.sameConfig, watches.liveness, ?_, Int.le_refl _, ?_, next,
      watches.heard⟩
    · exact Int.le_trans swept past
    · rw [watches.sameConfig] at due
      exact Int.le_of_lt (Int.not_le.mp due)

/-- At any time a coordinator watches its devices. -/
theorem Runs.watches
    {config : Config}
    {here : Endpoint}
    {coordinator : Coordinator}
    {now : Int}
    (runs : Runs config here coordinator now) :
    ∃ lastTick, coordinator.Watches config now lastTick := by
  induction runs with
  | start now =>
      refine ⟨now, rfl, rfl, rfl, Int.le_refl _, Int.le_refl _, ?_, ?_, ?_⟩
      · simp [Coordinator.start, Coordinator.new, schedule, setTimer, clearTimer]
      · intro timer held
        have first : timer ∈ [(Coordinator.new config here).nextTimer now] := held
        rw [List.mem_singleton.mp first]
        exact due_nextTimer _ now
      · intro record member
        have empty : ((Coordinator.new config here).start now).coordinator.relay.registry.records =
          [] := rfl
        simp [empty] at member
  | receive runs bytes sender ih =>
      obtain ⟨lastTick, watches⟩ := ih
      exact ⟨lastTick, watches.receive runs.reaches.timed bytes sender⟩
  | wait _ order _ ih =>
      obtain ⟨lastTick, watches⟩ := ih
      have past := watches.past
      exact ⟨lastTick, { watches with past := by omega }⟩
  | goOff runs held _ ih =>
      obtain ⟨lastTick, watches⟩ := ih
      exact ⟨_, watches.goOff runs.reaches.timed held⟩

/--
Whenever no timer is due any more, each device that is active at a coordinator
has been heard of less than the liveness timeout, the sweep period and 1250 ms
ago. There is always such a moment: when a timer goes off, the next one lies
ahead.
-/
theorem no_silent_device
    (config : Config)
    (here : Endpoint)
    (coordinator : Coordinator)
    (now : Int)
    (runs : Runs config here coordinator now) :
    ((∀ timer ∈ coordinator.pending, now < timer.due) ->
      ∀ record ∈ coordinator.relay.registry.records, record.active = true ->
        now - record.lastHeartbeat <
          config.timing.livenessTimeout + config.timing.sweepPeriod + 1250) ∧
    ∀ timer ∈ coordinator.pending, ∀ next ∈ (coordinator.goOff timer now).coordinator.pending,
      now < next.due := by
  have timed := runs.reaches.timed
  refine ⟨fun gone record member active => ?_, fun timer held => (timed.goOff held).2.1⟩
  obtain ⟨lastTick, watches⟩ := runs.watches
  obtain ⟨timer, set⟩ := Option.isSome_iff_exists.mp (timed.set.trans watches.running)
  have held : timer ∈ coordinator.pending := timed.held ▸ Option.mem_toList.mpr set
  have heard := watches.heard record member active
  have next := watches.next timer held
  have gap : longestGap timer ≤ 1250 := by
    unfold longestGap
    split <;> decide
  have early := gone timer held
  have due := watches.due
  omega

/-- A coordinator with one device, after its timer has gone off at 1000 and at 2000. -/
def sweptTwice : Coordinator :=
  let started := ((new { timing := { liveness := 2, sweep := 1 } } default).start 0).coordinator
  let joined := (started.receive (Utf8.ofString "REGISTER:a\n") default 100).coordinator
  let ticked := (joined.goOff ⟨0, 1000, idlePeriod⟩ 1000).coordinator
  (ticked.goOff ⟨1, 2000, idlePeriod⟩ 2000).coordinator

/-- The last timer of that coordinator. -/
def sweptTwiceTimer : Timer :=
  ⟨2, 3000, idlePeriod⟩

theorem pending_sweptTwice : sweptTwice.pending = [sweptTwiceTimer] := by
  decide +kernel

theorem runs_sweptTwice {now : Int} (order : 2000 ≤ now) (due : now ≤ 3000) :
    Runs { timing := { liveness := 2, sweep := 1 } } default sweptTwice now := by
  have last : Runs { timing := { liveness := 2, sweep := 1 } } default sweptTwice 2000 := by
    refine .goOff (.wait (.goOff (.wait (.receive (.wait (.start 0) ?_ ?_) _ _) ?_ ?_) ?_ rfl)
      ?_ ?_) ?_ rfl
    all_goals decide +kernel
  refine .wait last order fun timer held => ?_
  rw [pending_sweptTwice, List.mem_singleton] at held
  exact held ▸ due

/-- A device that was heard of 2899 ms ago, two sweeps after its registration, and is active
until the third one, at 3000. -/
theorem no_silent_device_swept :
    Runs { timing := { liveness := 2, sweep := 1 } } default sweptTwice 2999 ∧
    sweptTwice.lastSweepAt = 2000 ∧
    sweptTwice.relay.registry.records = [.new "a" default 100] ∧
    (2999 : Int) - 100 < 2000 + 1000 + 1250 ∧
    (sweptTwice.goOff sweptTwiceTimer 3000).coordinator.relay.registry.records.map (·.active) =
      [false] ∧
    ∀ next ∈ (sweptTwice.goOff sweptTwiceTimer 3000).coordinator.pending, 3000 < next.due := by
  have known : sweptTwice.relay.registry.records = [.new "a" default 100] := by decide +kernel
  have early := runs_sweptTwice (by decide : (2000 : Int) ≤ 2999) (by decide)
  have due := runs_sweptTwice (by decide : (2000 : Int) ≤ 3000) (by decide)
  have bound := (no_silent_device _ _ _ _ early).1 (by decide +kernel) (.new "a" default 100)
    (known ▸ List.mem_singleton_self _) rfl
  have ahead := (no_silent_device _ _ _ _ due).2 sweptTwiceTimer
    (pending_sweptTwice ▸ List.mem_singleton_self _)
  exact ⟨early, by decide +kernel, known, bound, by decide +kernel, ahead⟩

end Coordinator
end Relay
end CameraFleet
