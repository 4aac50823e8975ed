import CameraFleet.Session.Tally

/-!
# What the tally can do

Expiry, the beginning of a session and a reply, each by the cases in which its
result is one expression. Everything about runs of the tally rests on these.
-/

namespace CameraFleet
namespace Tally

/-- A broadcast at this time would be refused. -/
def Busy (tally : Tally) (now : Int) : Prop :=
  tally.policy = .reject ∧ ∃ session, tally.current = some session ∧ now < session.deadline

/-- The session that collects, if its deadline has not come. -/
def pending (tally : Tally) (now : Int) : Option Session :=
  tally.current.filter (now < ·.deadline)

/-- The session that collects, if its deadline has come. -/
def overdue (tally : Tally) (now : Int) : Option Session :=
  tally.current.filter (·.deadline ≤ now)

/-- The tally without a session. -/
def close (tally : Tally) : Tally :=
  { tally with current := none }

theorem pending_eq_some_iff {tally : Tally} {now : Int} {session : Session} :
    tally.pending now = some session ↔
      tally.current = some session ∧ now < session.deadline := by
  simp [pending, Option.filter_eq_some_iff]

theorem overdue_eq_some_iff {tally : Tally} {now : Int} {session : Session} :
    tally.overdue now = some session ↔
      tally.current = some session ∧ session.deadline ≤ now := by
  simp [overdue, Option.filter_eq_some_iff]

/-- Expiry keeps a session whose deadline has not come and gives up any other. -/
theorem expire_eq (tally : Tally) (now : Int) :
    tally.expire now = ({ tally with current := tally.pending now }, tally.overdue now) := by
  obtain ⟨timeout, policy, current, requester, sequence⟩ := tally
  cases current with
  | none => rfl
  | some session =>
      by_cases early : now < session.deadline
      · simp [expire, pending, overdue, Option.filter_some, early, Int.not_le.mpr early]
      · simp [expire, pending, overdue, Option.filter_some, early, Int.not_lt.mp early]

/-- A broadcast is refused just while a session collects under the rejecting policy. -/
theorem begin_of_busy
    {tally : Tally}
    {now : Int}
    {session : Session}
    (policy : tally.policy = .reject)
    (waiting : tally.pending now = some session)
    (kind : Kind)
    (requester : Endpoint)
    (targets : List String) :
    tally.begin kind requester targets now = (tally, .error session) := by
  obtain ⟨current, _⟩ := pending_eq_some_iff.mp waiting
  have same : ({ tally with current := tally.pending now } : Tally) = tally := by
    rw [waiting, ← current]
  simp only [begin, expire_eq, same]
  split
  · rename_i active open' _
    simp_all
  · rename_i contra
    exact absurd policy (contra session current)

/-- Any other broadcast opens a session, and says what became of the one before. -/
theorem begin_of_not_busy
    {tally : Tally}
    {now : Int}
    (free : ¬ tally.Busy now)
    (kind : Kind)
    (requester : Endpoint)
    (targets : List String) :
    tally.begin kind requester targets now =
      ({ tally with
          current := if targets.isEmpty then none
            else some (Session.new (tally.sequence + 1) kind requester targets now
              tally.responseTimeout)
          lastRequester := some requester
          sequence := tally.sequence + 1 },
        .ok
          { session := Session.new (tally.sequence + 1) kind requester targets now
              tally.responseTimeout
            replaced := tally.pending now
            expired := tally.overdue now
            completed := targets.isEmpty }) := by
  simp only [begin, expire_eq]
  split
  · rename_i session waiting policy
    exact absurd ⟨policy, session, pending_eq_some_iff.mp waiting⟩ free
  · rfl

/-- A reply that comes when no session collects goes to the last requester. -/
theorem record_of_closed
    {tally : Tally}
    {now : Int}
    (closed : tally.pending now = none)
    (kind : Kind)
    (deviceId : String) :
    tally.record kind deviceId now =
      (tally.close,
        { forwardTo := tally.lastRequester, tallied := false,
          late := tally.lastRequester.isSome, completed := none,
          expired := tally.overdue now }) := by
  simp [record, expire_eq, closed, close]

/-- A reply that comes while a session collects goes to its requester. -/
theorem record_of_pending
    {tally : Tally}
    {now : Int}
    {session : Session}
    (waiting : tally.pending now = some session)
    (kind : Kind)
    (deviceId : String) :
    tally.record kind deviceId now =
      if session.Counts kind deviceId then
        if (session.tally deviceId).Complete then
          (tally.close,
            { forwardTo := some session.requester, tallied := true, late := false,
              completed := some (session.tally deviceId), expired := none })
        else
          ({ tally with current := some (session.tally deviceId) },
            { forwardTo := some session.requester, tallied := true, late := false,
              completed := none, expired := none })
      else
        (tally,
          { forwardTo := some session.requester, tallied := false, late := false,
            completed := none, expired := none }) := by
  obtain ⟨current, early⟩ := pending_eq_some_iff.mp waiting
  have none : tally.overdue now = none := by
    rw [overdue, current, Option.filter_some, if_neg (by simpa using early)]
  have same : ({ tally with current := some session } : Tally) = tally := by rw [← current]
  simp only [record, expire_eq, waiting, none, close]
  split
  · rfl
  · rw [same]

end Tally
end CameraFleet
