import CameraFleet.Proofs.Broadcasts

/-!
# Early and late expiry

A timer may close a session at its deadline, or the next broadcast or reply may
find it overdue. The two come to the same: every answer, every session that is
reported as timed out, and the tally once it has been expired at the end.
-/

namespace CameraFleet
namespace Tally

/-- A use of the tally. -/
inductive Use
  /-- A broadcast. -/
  | begin (kind : Kind) (requester : Endpoint) (targets : List String) (now : Int)
  /-- A reply. -/
  | record (kind : Kind) (deviceId : String) (now : Int)
  /-- The timer. -/
  | expire (now : Int)

/-- When the tally is used. -/
def Use.time : Use -> Int
  | .begin _ _ _ now | .record _ _ now | .expire now => now

/-- Whether a use is more than the timer. -/
def Use.isWork : Use -> Bool
  | .expire _ => false
  | _ => true

/-- What a use answers, apart from a session that it reports as timed out. -/
inductive Answer
  /-- A session was opened. -/
  | opened (session : Session) (replaced : Option Session) (completed : Bool)
  /-- The broadcast was refused. -/
  | refused (active : Session)
  /-- A reply was noted. -/
  | received (forwardTo : Option Endpoint) (tallied late : Bool) (completed : Option Session)

/-- A use of the tally: the tally after it, its answer, and the session that it reports. -/
def perform (tally : Tally) : Use -> Tally × Option Answer × Option Session
  | .begin kind requester targets now =>
      match tally.begin kind requester targets now with
      | (tally, .ok opening) =>
          (tally, some (.opened opening.session opening.replaced opening.completed),
            opening.expired)
      | (tally, .error active) => (tally, some (.refused active), none)
  | .record kind deviceId now =>
      let (tally, receipt) := tally.record kind deviceId now
      (tally,
        some (.received receipt.forwardTo receipt.tallied receipt.late receipt.completed),
        receipt.expired)
  | .expire now =>
      let (tally, expired) := tally.expire now
      (tally, none, expired)

/-- Uses one after the other: the tally after them, the answers, and the sessions reported. -/
def performAll (tally : Tally) : List Use -> Tally × List Answer × List Session
  | [] => (tally, [], [])
  | use :: uses =>
      let (tally, answer, expired) := tally.perform use
      let (tally, answers, reported) := tally.performAll uses
      (tally, answer.toList ++ answers, expired.toList ++ reported)

/-- An earlier expiry does not show in a later one, and nothing is reported twice. -/
theorem expire_expire
    (tally : Tally)
    {early now : Int}
    (order : early ≤ now) :
    ((tally.expire early).1.expire now).1 = (tally.expire now).1 ∧
    (tally.expire early).2.toList ++ ((tally.expire early).1.expire now).2.toList =
      (tally.expire now).2.toList := by
  cases current : tally.current with
  | none => simp [expire, current]
  | some session =>
      by_cases open' : early < session.deadline
      · simp [expire, current, open']
      · have late : ¬ now < session.deadline := by omega
        simp [expire, current, open', late]

/-- Nothing is left to expire at the time of an expiry. -/
theorem expire_expire_self (tally : Tally) (now : Int) :
    (tally.expire now).1.expire now = ((tally.expire now).1, none) := by
  cases current : tally.current with
  | none => simp [expire, current]
  | some session =>
      by_cases open' : now < session.deadline <;> simp [expire, current, open']

/-- Any use first expires the tally: nothing else depends on whether that was done before. -/
theorem perform_eq (tally : Tally) (use : Use) :
    tally.perform use =
      (((tally.expire use.time).1.perform use).1, ((tally.expire use.time).1.perform use).2.1,
        (tally.expire use.time).2) := by
  have again := expire_expire_self tally use.time
  cases use with
  | expire now => simp only [perform, Use.time] at again ⊢; rw [again]
  | begin kind requester targets now =>
      simp only [perform, Use.time, Tally.begin] at again ⊢
      rw [again]
      cases current : (tally.expire now).1.current with
      | none => rfl
      | some session =>
          have early : now < session.deadline := by
            rw [expire_eq] at current
            exact (pending_eq_some_iff.mp current).2
          have none : (tally.expire now).2 = none := by
            rw [expire_eq] at current ⊢
            obtain ⟨known, _⟩ := pending_eq_some_iff.mp current
            cases late : tally.overdue now with
            | none => rfl
            | some other =>
                obtain ⟨same, passed⟩ := overdue_eq_some_iff.mp late
                rw [known] at same
                obtain rfl := Option.some.inj same
                omega
          cases (tally.expire now).1.policy with
          | reject => simp [none]
          | replace => rfl
  | record kind deviceId now =>
      simp only [perform, Use.time, Tally.record] at again ⊢
      rw [again]
      cases (tally.expire now).1.current with
      | none => rfl
      | some session =>
          dsimp only
          split
          · split <;> rfl
          · rfl

/--
How a tally that is expired often stands to one that is not: from a time on they
are the same once both are expired, and the sessions that the first one has
already reported come before what it will report.
-/
def Ahead
    (bound : Int)
    (reported : List Session)
    (eager lazy : Tally) : Prop :=
  ∀ now, bound ≤ now ->
    (eager.expire now).1 = (lazy.expire now).1 ∧
      reported ++ (eager.expire now).2.toList = (lazy.expire now).2.toList

theorem ahead_refl (bound : Int) (tally : Tally) : Ahead bound [] tally tally :=
  fun _ _ => ⟨rfl, rfl⟩

/-- The timer puts a tally further ahead. -/
theorem Ahead.expire
    {bound now : Int}
    {reported : List Session}
    {eager lazy : Tally}
    (ahead : Ahead bound reported eager lazy)
    (order : bound ≤ now) :
    Ahead now (reported ++ (eager.expire now).2.toList) (eager.expire now).1 lazy := by
  intro later after
  obtain ⟨same, reports⟩ := ahead later (by omega)
  obtain ⟨expired, nothingTwice⟩ := expire_expire eager after
  refine ⟨expired.trans same, ?_⟩
  rw [List.append_assoc, nothingTwice, reports]

/-- A broadcast or a reply brings the two together, with the same answer. -/
theorem Ahead.perform
    {bound : Int}
    {reported : List Session}
    {eager lazy : Tally}
    (ahead : Ahead bound reported eager lazy)
    (use : Use)
    (order : bound ≤ use.time) :
    (eager.perform use).1 = (lazy.perform use).1 ∧
    (eager.perform use).2.1 = (lazy.perform use).2.1 ∧
    reported ++ (eager.perform use).2.2.toList = (lazy.perform use).2.2.toList := by
  obtain ⟨same, reports⟩ := ahead use.time order
  rw [perform_eq eager, perform_eq lazy, same]
  exact ⟨rfl, rfl, reports⟩

/-- Leaving out the timer changes neither the answers nor what is reported in the end. -/
theorem Ahead.performAll
    {bound last : Int}
    {reported : List Session}
    {eager lazy : Tally}
    (ahead : Ahead bound reported eager lazy)
    (uses : List Use)
    (order : (bound :: (uses.map Use.time ++ [last])).Pairwise (· ≤ ·)) :
    (eager.performAll uses).2.1 = (lazy.performAll (uses.filter Use.isWork)).2.1 ∧
    ((eager.performAll uses).1.expire last).1 =
      ((lazy.performAll (uses.filter Use.isWork)).1.expire last).1 ∧
    reported ++ (eager.performAll uses).2.2 ++
        ((eager.performAll uses).1.expire last).2.toList =
      (lazy.performAll (uses.filter Use.isWork)).2.2 ++
        ((lazy.performAll (uses.filter Use.isWork)).1.expire last).2.toList := by
  induction uses generalizing bound reported eager lazy with
  | nil =>
      have atLast : bound ≤ last := (List.pairwise_cons.mp order).1 last (by simp)
      obtain ⟨same, reports⟩ := ahead last atLast
      exact ⟨rfl, same, by simpa [Tally.performAll] using reports⟩
  | cons use uses ih =>
      obtain ⟨above, later⟩ := List.pairwise_cons.mp order
      have inOrder : bound ≤ use.time := above use.time (by simp)
      by_cases work : use.isWork = true
      · obtain ⟨same, answer, reports⟩ := ahead.perform use inOrder
        have next := ih (ahead_refl use.time (lazy.perform use).1) later
        obtain ⟨answers, final, rest⟩ := next
        simp only [List.filter_cons_of_pos work, Tally.performAll, same, answer]
        refine ⟨by rw [answers], final, ?_⟩
        rw [← List.append_assoc, reports, List.append_assoc, List.append_assoc]
        exact congrArg _ rest
      · obtain ⟨now, rfl⟩ : ∃ now, use = .expire now := by
          cases use <;> simp [Use.isWork] at work ⊢
        have next := ih (ahead.expire inOrder) later
        simpa [List.filter_cons_of_neg work, Tally.performAll, Tally.perform, Use.time] using next

/--
However often the timer closes overdue sessions between broadcasts and replies,
at times that do not decrease, it makes no difference to the answers, nor, after
an expiry at the end, to the tally and to the sessions that were reported as
timed out, which are even reported in the same order.
-/
theorem timer_does_not_show
    (tally : Tally)
    (uses : List Use)
    (last : Int)
    (order : (uses.map Use.time ++ [last]).Pairwise (· ≤ ·)) :
    (tally.performAll uses).2.1 = (tally.performAll (uses.filter Use.isWork)).2.1 ∧
    ((tally.performAll uses).1.expire last).1 =
      ((tally.performAll (uses.filter Use.isWork)).1.expire last).1 ∧
    (tally.performAll uses).2.2 ++ ((tally.performAll uses).1.expire last).2.toList =
      (tally.performAll (uses.filter Use.isWork)).2.2 ++
        ((tally.performAll (uses.filter Use.isWork)).1.expire last).2.toList := by
  obtain ⟨first, below⟩ : ∃ first, ∀ time ∈ uses.map Use.time ++ [last], first ≤ time := by
    cases times : uses.map Use.time ++ [last] with
    | nil => exact ⟨0, by simp⟩
    | cons first rest =>
        rw [times, List.pairwise_cons] at order
        refine ⟨first, ?_⟩
        simpa using order.1
  have ahead := ahead_refl first tally
  simpa using ahead.performAll uses (List.pairwise_cons.mpr ⟨below, order⟩)

/-- A session that the timer closes before a reply comes. -/
theorem timer_does_not_show_late :
    (([.begin .time default ["a"] 0, .expire 2000, .record .time "a" 2500] : List Use).map
      Use.time ++ [(3000 : Int)]).Pairwise (· ≤ ·) ∧
    (({ responseTimeout := 2000, policy := .reject } : Tally).performAll
      [.begin .time default ["a"] 0, .expire 2000, .record .time "a" 2500]).2.1 =
    (({ responseTimeout := 2000, policy := .reject } : Tally).performAll
      [.begin .time default ["a"] 0, .record .time "a" 2500]).2.1 :=
  ⟨by decide, (timer_does_not_show _ _ 3000 (by decide)).1⟩

end Tally
end CameraFleet
