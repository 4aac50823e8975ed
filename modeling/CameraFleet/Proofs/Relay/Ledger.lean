import CameraFleet.Proofs.Relay.Accounts

/-!
# The ledger of sessions

The relay's log opens and closes sessions. Each session that is opened is the
one that still collects, or was closed by one line after its opening and before
the next; a line that closes a session tells the truth about it.
-/

namespace CameraFleet

namespace Session

theorem not_hyphen_mem_repr (number : Nat) : '-' ∉ number.repr.toList := by
  intro member
  rw [Nat.toList_repr] at member
  exact absurd (Nat.isDigit_of_mem_toDigits (by decide) (by decide) member) (by decide)

/-- Sessions of different numbers have different names, whenever they begin. -/
theorem number_eq_of_name_eq
    {began began' : Int}
    {number number' : Nat}
    (same : name began number = name began' number') :
    number = number' := by
  have lists := congrArg (fun text => text.toList.reverse.takeWhile (· != '-')) same
  have tail (began : Int) (number : Nat) :
      ((name began number).toList.reverse.takeWhile (· != '-')) =
        number.repr.toList.reverse := by
    have parts : (name began number).toList.reverse = number.repr.toList.reverse ++
        ('-' :: ("session-" ++ toString began).toList.reverse) := by
      simp [name, toString]
    rw [parts, List.takeWhile_append_of_pos]
    · simp
    · intro char member
      have digit : char ∈ number.repr.toList := List.mem_reverse.mp member
      have differs : char ≠ '-' := fun hyphen => not_hyphen_mem_repr number (hyphen ▸ digit)
      simpa using differs
  simp only [tail, List.reverse_inj, Nat.toList_repr] at lists
  have values := congrArg (Nat.ofDigitChars 10 · 0) lists
  simpa [Nat.ofDigitChars_toDigits] using values

end Session

namespace Relay

open Device Wire

/-- The session that an event opens. -/
def Event.opened? : Event -> Option Session
  | .forwarding _ _ session => some session
  | _ => none

/-- The session that an event closes. -/
def Event.closed? : Event -> Option Session
  | .timedOut session => some session
  | .abandoned session => some session
  | .completed session => some session
  | _ => none

/-- The names of the sessions opened, in order. -/
def openedIds (log : List (Int × Event)) : List String :=
  (log.filterMap (·.2.opened?)).map (·.id)

/-- The names of the sessions closed, in order. -/
def closedIds (log : List (Int × Event)) : List String :=
  (log.filterMap (·.2.closed?)).map (·.id)

/-- Since the session was opened, each reply that it counts was tallied before its deadline. -/
def TalliedInTime (log : List (Int × Event)) (session : Session) : Prop :=
  ∃ before later time count opened,
    log = before ++ (time, .forwarding session.kind count opened) :: later ∧
    opened.id = session.id ∧
    ∀ id ∈ session.responded, ∃ early, early < session.deadline ∧
      (early, .forwarded session.kind id .tallied) ∈ later

/-- The missing devices of a session are those that were asked and have not answered, each
once, and as many as the replies that are missing. -/
structure MissesExactly (session : Session) : Prop where
  once : session.missing.Nodup
  mem_iff : ∀ id, id ∈ session.missing ↔ id ∈ session.targets ∧ id ∉ session.responded
  length : session.missing.length = session.expectedCount - session.receivedCount
  expected : session.expectedCount = session.targets.length
  received : session.receivedCount = session.responded.length

/-- What an event that closes a session says is true. -/
def Truthful (log : List (Int × Event)) (now : Int) : Event -> Prop
  | .completed session =>
      session.responded.Perm session.targets ∧
        session.receivedCount = session.expectedCount ∧ TalliedInTime log session
  | .timedOut session => session.deadline ≤ now ∧ MissesExactly session
  | _ => True

/-- How the log and the tally belong together. -/
structure Ledger (tally : Tally) (log : List (Int × Event)) : Prop where
  /-- Every session that was opened was closed before the next, or collects. -/
  closed : openedIds log = closedIds log ++ (tally.current.map (·.id)).toList
  /-- Every name has a number of its own. -/
  numbered : ∀ id ∈ openedIds log, ∃ began number,
    number ≤ tally.sequence ∧ id = Session.name began number
  /-- No two sessions share a name. -/
  distinct : (openedIds log).Nodup
  /-- The session that collects was tallied in time. -/
  inTime : ∀ session, tally.current = some session -> TalliedInTime log session
  /-- Every event is truthful. -/
  truthful : ∀ entry ∈ log, Truthful log entry.1 entry.2

theorem TalliedInTime.append
    {log : List (Int × Event)}
    {session : Session}
    (inTime : TalliedInTime log session)
    (more : List (Int × Event)) :
    TalliedInTime (log ++ more) session := by
  obtain ⟨before, later, time, count, opened, rfl, same, tallied⟩ := inTime
  refine ⟨before, later ++ more, time, count, opened, by simp, same, fun id member => ?_⟩
  obtain ⟨early, soon, found⟩ := tallied id member
  exact ⟨early, soon, List.mem_append_left more found⟩

theorem Truthful.append
    {log : List (Int × Event)}
    {now : Int}
    {event : Event}
    (truthful : Truthful log now event)
    (more : List (Int × Event)) :
    Truthful (log ++ more) now event := by
  cases event with
  | completed session => exact ⟨truthful.1, truthful.2.1, truthful.2.2.append more⟩
  | timedOut session => exact truthful
  | _ => trivial

/-- An event that neither opens nor closes a session. -/
def Quiet (event : Event) : Prop :=
  event.opened? = none ∧ event.closed? = none

/-- Quiet events change nothing. -/
theorem Ledger.quiet
    {tally after : Tally}
    {log : List (Int × Event)}
    (ledger : Ledger tally log)
    (current : after.current = tally.current)
    (sequence : tally.sequence ≤ after.sequence)
    (now : Int)
    (events : List Event)
    (quiet : ∀ event ∈ events, Quiet event) :
    Ledger after (log ++ events.map (now, ·)) := by
  have opens : openedIds (log ++ events.map (now, ·)) = openedIds log := by
    have none : (events.map ((now, ·) : Event -> Int × Event)).filterMap (·.2.opened?) = [] := by
      simpa using fun event member => (quiet event member).1
    simp only [openedIds, List.filterMap_append, none, List.append_nil]
  have closes : closedIds (log ++ events.map (now, ·)) = closedIds log := by
    have none : (events.map ((now, ·) : Event -> Int × Event)).filterMap (·.2.closed?) = [] := by
      simpa using fun event member => (quiet event member).2
    simp only [closedIds, List.filterMap_append, none, List.append_nil]
  refine ⟨?_, ?_, ?_, ?_, ?_⟩
  · rw [opens, closes, current]
    exact ledger.closed
  · intro id member
    obtain ⟨began, number, bound, same⟩ := ledger.numbered id (opens ▸ member)
    exact ⟨began, number, by omega, same⟩
  · exact opens ▸ ledger.distinct
  · exact fun session found => (ledger.inTime session (current ▸ found)).append _
  · intro entry member
    rcases List.mem_append.mp member with old | new
    · exact (ledger.truthful entry old).append _
    · obtain ⟨event, among, rfl⟩ := List.mem_map.mp new
      have none := (quiet event among).2
      cases event with
      | completed session => simp [Event.closed?] at none
      | timedOut session => simp [Event.closed?] at none
      | _ => trivial

/-- An event that closes the session that collects. -/
theorem Ledger.close
    {tally : Tally}
    {log : List (Int × Event)}
    (ledger : Ledger tally log)
    {session : Session}
    (current : tally.current = some session)
    (last : Session)
    (same : last.id = session.id)
    {now : Int}
    (event : Event)
    (closes : event.closed? = some last)
    (truthful : Truthful (log ++ [(now, event)]) now event) :
    Ledger tally.close (log ++ [(now, event)]) := by
  have opens : event.opened? = none := by
    cases event <;> first | rfl | simp [Event.closed?] at closes
  have openedIds_eq : openedIds (log ++ [(now, event)]) = openedIds log := by
    simp [openedIds, List.filterMap_append, opens]
  have closedIds_eq : closedIds (log ++ [(now, event)]) = closedIds log ++ [session.id] := by
    simp [closedIds, List.filterMap_append, closes, same]
  refine ⟨?_, ?_, ?_, ?_, ?_⟩
  · rw [openedIds_eq, closedIds_eq, ledger.closed, current]
    simp [Tally.close]
  · exact fun id member => ledger.numbered id (openedIds_eq ▸ member)
  · exact openedIds_eq ▸ ledger.distinct
  · simp [Tally.close]
  · intro entry member
    rcases List.mem_append.mp member with old | new
    · exact (ledger.truthful entry old).append _
    · obtain rfl := List.mem_singleton.mp new
      exact truthful

/-- An event that opens a session. -/
theorem Ledger.open
    {tally after : Tally}
    {log : List (Int × Event)}
    (ledger : Ledger tally log)
    (idle : tally.current = none)
    (session : Session)
    (current : after.current = some session)
    (sequence : after.sequence = tally.sequence + 1)
    (named : session.id = Session.name session.startedAt after.sequence)
    (fresh : session.responded = [])
    (now : Int)
    (count : Nat) :
    Ledger after (log ++ [(now, .forwarding session.kind count session)]) := by
  have openedIds_eq : openedIds (log ++ [(now, .forwarding session.kind count session)]) =
      openedIds log ++ [session.id] := by
    simp [openedIds, List.filterMap_append, Event.opened?]
  have closedIds_eq : closedIds (log ++ [(now, .forwarding session.kind count session)]) =
      closedIds log := by
    simp [closedIds, List.filterMap_append, Event.closed?]
  refine ⟨?_, ?_, ?_, ?_, ?_⟩
  · rw [openedIds_eq, closedIds_eq, ledger.closed, idle, current]
    simp
  · intro id member
    rcases List.mem_append.mp (openedIds_eq ▸ member) with old | new
    · obtain ⟨began, number, bound, same⟩ := ledger.numbered id old
      exact ⟨began, number, by omega, same⟩
    · exact ⟨session.startedAt, after.sequence, Nat.le_refl _,
        (List.mem_singleton.mp new).trans named⟩
  · rw [openedIds_eq, List.nodup_append]
    refine ⟨ledger.distinct, by simp, ?_⟩
    rintro id old last new rfl
    obtain ⟨began, number, bound, same⟩ := ledger.numbered id old
    rw [List.mem_singleton.mp new, named] at same
    have := Session.number_eq_of_name_eq same
    omega
  · intro other found
    obtain rfl := Option.some.inj (current.symm.trans found)
    exact ⟨log, [], now, count, session, rfl, rfl, by simp [fresh]⟩
  · intro entry member
    rcases List.mem_append.mp member with old | new
    · exact (ledger.truthful entry old).append _
    · rw [List.mem_singleton.mp new]
      trivial

/-- A session that collects keeps its name while it tallies. -/
theorem Ledger.retally
    {tally after : Tally}
    {log : List (Int × Event)}
    (ledger : Ledger tally log)
    {session counted : Session}
    (current : tally.current = some session)
    (counts : after.current = some counted)
    (same : counted.id = session.id)
    (sequence : after.sequence = tally.sequence)
    (inTime : TalliedInTime log counted) :
    Ledger after log where
  closed := by
    rw [ledger.closed, current, counts]
    simp [same]
  numbered := sequence ▸ ledger.numbered
  distinct := ledger.distinct
  inTime := fun other found => by
    obtain rfl := Option.some.inj (counts.symm.trans found)
    exact inTime
  truthful := ledger.truthful

/-- Those who have not answered are as many as the replies that are missing. -/
theorem Accounted.length_missing
    {relay : Relay}
    {session : Session}
    (accounted : relay.Accounted session) :
    session.missing.length = session.expectedCount - session.receivedCount := by
  have answered : (session.targets.filter session.responded.contains).Perm session.responded := by
    refine (List.perm_ext_iff_of_nodup (accounted.distinct.filter _) accounted.once).mpr ?_
    intro id
    have asked := @accounted.asked id
    simp only [List.mem_filter, List.contains_iff_mem]
    exact ⟨fun both => both.2, fun member => ⟨asked member, member⟩⟩
  have split := List.length_eq_length_filter_add (l := session.targets) session.responded.contains
  rw [answered.length_eq] at split
  rw [accounted.expected, accounted.received, Session.missing]
  omega

theorem Accounted.missesExactly
    {relay : Relay}
    {session : Session}
    (accounted : relay.Accounted session) :
    MissesExactly session where
  once := accounted.distinct.filter _
  mem_iff := fun id => by simp [Session.missing]
  length := accounted.length_missing
  expected := accounted.expected
  received := accounted.received

/-- An expiry closes a session at its deadline or later. -/
theorem Ledger.expire
    {relay : Relay}
    {log : List (Int × Event)}
    (ledger : Ledger relay.tally log)
    (joint : relay.Joint)
    (now : Int) :
    Ledger { relay.tally with current := relay.tally.pending now }
      (log ++ (timeoutEvents (relay.tally.overdue now)).map (now, ·)) := by
  cases overdue : relay.tally.overdue now with
  | none =>
      have kept : relay.tally.pending now = relay.tally.current := by
        cases current : relay.tally.current with
        | none => simp [Tally.pending, current]
        | some session =>
            have early : now < session.deadline := by
              simpa [Tally.overdue, current] using overdue
            simp [Tally.pending, current, early]
      refine ledger.quiet ?_ ?_ now [] (by simp)
      · exact kept
      · exact Nat.le_refl _
  | some session =>
      obtain ⟨current, late⟩ := Tally.overdue_eq_some_iff.mp overdue
      have closed : relay.tally.pending now = none := by
        simp [Tally.pending, current, late]
      rw [closed]
      exact ledger.close current session rfl (.timedOut session) rfl
        ⟨late, (joint.accounted session current).missesExactly⟩

theorem quiet_sweepEvents (swept : List Device.Record) :
    ∀ event ∈ sweepEvents swept, Quiet event := by
  intro event member
  obtain ⟨record, _, rfl⟩ := List.mem_map.mp member
  exact ⟨rfl, rfl⟩

/-- A reply that counts was tallied before the deadline. -/
theorem TalliedInTime.tally
    {log : List (Int × Event)}
    {session : Session}
    (inTime : TalliedInTime log session)
    {now : Int}
    (early : now < session.deadline)
    (id : String) :
    TalliedInTime (log ++ [(now, .forwarded session.kind id .tallied)]) (session.tally id) := by
  obtain ⟨before, later, time, count, opened, rfl, same, tallied⟩ := inTime
  refine ⟨before, later ++ [(now, .forwarded session.kind id .tallied)], time, count, opened,
    by simp [Session.tally], same, fun other member => ?_⟩
  rcases List.mem_append.mp member with old | new
  · obtain ⟨early, soon, found⟩ := tallied other old
    exact ⟨early, soon, List.mem_append_left _ found⟩
  · rw [List.mem_singleton.mp new]
    exact ⟨now, early, by simp [Session.tally]⟩

/-- A reply is tallied, or closes its session, or finds none. -/
theorem Ledger.reply
    {relay : Relay}
    {log : List (Int × Event)}
    (ledger : Ledger relay.tally log)
    (joint : relay.Joint)
    (kind : Kind)
    (id payload : String)
    (now : Int) :
    Ledger (relay.reply kind id payload now).relay.tally
      (log ++ (relay.reply kind id payload now).events.map (now, ·)) := by
  cases waiting : relay.tally.pending now with
  | none =>
      have expired := ledger.expire joint now
      rw [waiting] at expired
      have after : (relay.reply kind id payload now).relay.tally = relay.tally.close := by
        simp only [Relay.reply, Tally.record_of_closed waiting]
        split <;> rfl
      have events : ∃ event, Quiet event ∧ (relay.reply kind id payload now).events =
          timeoutEvents (relay.tally.overdue now) ++ [event] := by
        simp only [Relay.reply, Tally.record_of_closed waiting]
        split
        · exact ⟨_, ⟨rfl, rfl⟩, rfl⟩
        · exact ⟨_, ⟨rfl, rfl⟩, List.append_nil _⟩
      obtain ⟨event, quiet, events⟩ := events
      rw [after, events, List.map_append, ← List.append_assoc]
      refine expired.quiet ?_ ?_ now [event] (by simpa using quiet)
      · rfl
      · exact Nat.le_refl _
  | some session =>
      obtain ⟨current, early⟩ := Tally.pending_eq_some_iff.mp waiting
      have accounted := joint.accounted session current
      by_cases counts : session.Counts kind id
      · obtain rfl : kind = session.kind := counts.1
        have inTime := (ledger.inTime session current).tally early id
        have noted : Ledger relay.tally
            (log ++ [(now, .forwarded session.kind id .tallied)]) :=
          ledger.quiet rfl (Nat.le_refl _) now [.forwarded session.kind id .tallied]
            (by simp [Quiet, Event.opened?, Event.closed?])
        by_cases complete : (session.tally id).Complete
        · have result : relay.reply session.kind id payload now =
              { relay := { relay with tally := relay.tally.close }
                events := [.forwarded session.kind id .tallied, .completed (session.tally id)]
                out := [⟨session.requester, .reply session.kind id payload⟩] } := by
            simp [Relay.reply, Tally.record_of_pending waiting, counts, complete, timeoutEvents,
              standing]
          have both := accounted.perm_of_complete counts complete
          rw [result]
          have closed := noted.close current (session.tally id) rfl
            (.completed (session.tally id)) rfl
            ⟨both.1, both.2, inTime.append [(now, .completed (session.tally id))]⟩
          simpa using closed
        · have result : relay.reply session.kind id payload now =
              { relay := { relay with
                  tally := { relay.tally with current := some (session.tally id) } }
                events := [.forwarded session.kind id .tallied]
                out := [⟨session.requester, .reply session.kind id payload⟩] } := by
            simp [Relay.reply, Tally.record_of_pending waiting, counts, complete, timeoutEvents,
              standing]
          rw [result]
          exact noted.retally current rfl rfl rfl inTime
      · have result : relay.reply kind id payload now =
            { relay
              events := [.forwarded kind id .untallied]
              out := [⟨session.requester, .reply kind id payload⟩] } := by
          simp [Relay.reply, Tally.record_of_pending waiting, counts, timeoutEvents, standing]
        rw [result]
        exact ledger.quiet rfl (Nat.le_refl _) now [.forwarded kind id .untallied]
          (by simp [Quiet, Event.opened?, Event.closed?])

/-- What a broadcast gives up is closed before it begins. -/
theorem Ledger.vacate
    {relay : Relay}
    {log : List (Int × Event)}
    (ledger : Ledger relay.tally log)
    (joint : relay.Joint)
    (now : Int) :
    Ledger relay.tally.close
      (log ++ (timeoutEvents (relay.tally.overdue now) ++
        ((relay.tally.pending now).map Event.abandoned).toList).map (now, ·)) := by
  have expired := ledger.expire joint now
  rw [List.map_append, ← List.append_assoc]
  cases waiting : relay.tally.pending now with
  | none =>
      rw [waiting] at expired
      simpa [Tally.close] using expired
  | some session =>
      rw [waiting] at expired
      exact expired.close rfl session rfl (.abandoned session) rfl trivial

/-- A broadcast is refused, or closes what went before and opens a session if it goes out. -/
theorem Ledger.broadcast
    {relay : Relay}
    {log : List (Int × Event)}
    (ledger : Ledger relay.tally log)
    (joint : relay.Joint)
    (kind : Kind)
    (sender : Endpoint)
    (now : Int) :
    Ledger (relay.broadcast kind sender now).relay.tally
      (log ++ (relay.broadcast kind sender now).events.map (now, ·)) := by
  have swept : Ledger relay.tally
      (log ++ (sweepEvents (relay.registry.sweep now).2).map (now, ·)) :=
    ledger.quiet rfl (Nat.le_refl _) now _ (quiet_sweepEvents _)
  by_cases busy : relay.tally.Busy now
  · obtain ⟨policy, session, current⟩ := busy
    have waiting := Tally.pending_eq_some_iff.mpr current
    have events : (relay.broadcast kind sender now).events =
        sweepEvents (relay.registry.sweep now).2 ++ [.refused kind sender session] := by
      simp [Relay.broadcast, Tally.begin_of_busy policy waiting]
    rw [(broadcast_of_busy policy waiting kind sender).1, events, List.map_append,
      ← List.append_assoc]
    exact swept.quiet rfl (Nat.le_refl _) now [.refused kind sender session]
      (by simp [Quiet, Event.opened?, Event.closed?])
  · have vacant := swept.vacate joint now
    rw [(broadcast_of_not_busy busy kind sender).1]
    by_cases nobody : (relay.swept now).active.isEmpty
    · have events : (relay.broadcast kind sender now).events =
          sweepEvents (relay.registry.sweep now).2 ++
            (timeoutEvents (relay.tally.overdue now) ++
              ((relay.tally.pending now).map Event.abandoned).toList) ++
            [.nobody kind sender] := by
        have empty : (relay.registry.sweep now).1.active.isEmpty = true := nobody
        simp [Relay.broadcast, Tally.begin_of_not_busy busy, List.isEmpty_iff.mp empty]
      rw [events, List.map_append, List.map_append, ← List.append_assoc, ← List.append_assoc]
      refine vacant.quiet ?_ ?_ now [.nobody kind sender]
        (by simp [Quiet, Event.opened?, Event.closed?])
      · simp [opened, Tally.openSession, List.isEmpty_iff.mp nobody, Tally.close]
      · simp [opened, Tally.openSession, Tally.close]
    · let session := Session.new (relay.tally.sequence + 1) kind sender
        ((relay.swept now).active.map (·.id)) now relay.tally.responseTimeout
      have events : (relay.broadcast kind sender now).events =
          sweepEvents (relay.registry.sweep now).2 ++
            (timeoutEvents (relay.tally.overdue now) ++
              ((relay.tally.pending now).map Event.abandoned).toList) ++
            [.forwarding session.kind (relay.swept now).active.length session] := by
        have somebody : (relay.registry.sweep now).1.active.isEmpty = false :=
          Bool.eq_false_iff.mpr nobody
        simp [Relay.broadcast, Tally.begin_of_not_busy busy, somebody, session, Relay.swept,
          Session.new]
      have somebody : ¬ ((relay.swept now).active.map (·.id)).isEmpty = true := by
        simpa using nobody
      rw [events, List.map_append, List.map_append, ← List.append_assoc, ← List.append_assoc]
      exact vacant.open rfl session (if_neg somebody) rfl rfl rfl now _

theorem quiet_registrationEvent
    (registry : Registry)
    (id : String)
    (sender : Endpoint)
    (viaHeartbeat : Bool)
    (result : Except RegisterError Registry.Registration) :
    Quiet (registrationEvent registry id sender viaHeartbeat result) := by
  rcases result with reason | registration
  · cases reason <;> exact ⟨rfl, rfl⟩
  · simp only [registrationEvent]
    split <;> exact ⟨rfl, rfl⟩

/-- A registration neither opens nor closes a session. -/
theorem Ledger.register
    {relay : Relay}
    {log : List (Int × Event)}
    (ledger : Ledger relay.tally log)
    (id : String)
    (sender : Endpoint)
    (now : Int)
    (viaHeartbeat : Bool) :
    Ledger (relay.register id sender now viaHeartbeat).relay.tally
      (log ++ (relay.register id sender now viaHeartbeat).events.map (now, ·)) := by
  refine ledger.quiet rfl (Nat.le_refl _) now _ fun event member => ?_
  rw [List.mem_singleton.mp member]
  exact quiet_registrationEvent _ _ _ _ _

/-- Whatever message is taken, the log and the tally go on belonging together. -/
theorem Ledger.dispatch
    {relay : Relay}
    {log : List (Int × Event)}
    (ledger : Ledger relay.tally log)
    (joint : relay.Joint)
    (message : Message)
    (sender : Endpoint)
    (now : Int) :
    Ledger (relay.dispatch message sender now).relay.tally
      (log ++ (relay.dispatch message sender now).events.map (now, ·)) := by
  cases message with
  | request kind => exact ledger.broadcast joint kind sender now
  | reply kind id payload => exact ledger.reply joint kind id payload now
  | register id => exact ledger.register id sender now false
  | heartbeat id =>
      simp only [Relay.dispatch, heartbeat]
      split
      · exact ledger.quiet rfl (Nat.le_refl _) now [.heartbeat id]
          (by simp [Quiet, Event.opened?, Event.closed?])
      · split
        · exact ledger.quiet rfl (Nat.le_refl _) now [.strangeHeartbeat id]
            (by simp [Quiet, Event.opened?, Event.closed?])
        · exact ledger.register id sender now true
  | unregister id =>
      refine ledger.quiet rfl (Nat.le_refl _) now
        [if (relay.registry.unregister id).2 then .unregistered id else .strangeUnregister id] ?_
      intro event member
      rw [List.mem_singleton.mp member]
      split <;> exact ⟨rfl, rfl⟩
  | registered status =>
      exact ledger.quiet rfl (Nat.le_refl _) now [.ignored .registered sender]
        (by simp [Quiet, Event.opened?, Event.closed?])
  | error code detail =>
      exact ledger.quiet rfl (Nat.le_refl _) now [.ignored .error sender]
        (by simp [Quiet, Event.opened?, Event.closed?])

end Relay
end CameraFleet
