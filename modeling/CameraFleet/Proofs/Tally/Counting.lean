import CameraFleet.Proofs.Broadcasts
import Mathlib.Data.List.Induction
import Mathlib.Data.List.Perm.Subperm

/-!
# What is counted

While a session may collect, the tally holds the targets that have answered, in
the order of their first answer, whatever else has come in between: answers to
other broadcasts, of strangers, and repeated ones. The session is closed by the
first reply with which every target has answered. So the order of the replies
decides neither whether it is closed nor who was counted.
-/

namespace CameraFleet
namespace Tally

/-- A reply, as the tally sees it. -/
structure Reply where
  /-- What it answers. -/
  kind : Kind
  /-- Who answers. -/
  deviceId : String
  /-- When it comes. -/
  now : Int

/-- Replies one after the other: the tally after them, and what became of each. -/
def recordAll (tally : Tally) : List Reply -> Tally × List Receipt
  | [] => (tally, [])
  | reply :: replies =>
      let (tally, receipt) := tally.record reply.kind reply.deviceId reply.now
      let (tally, receipts) := tally.recordAll replies
      (tally, receipt :: receipts)

/-- The targets that have answered, in the order of their first answer. -/
def arrivals (kind : Kind) (targets : List String) (replies : List Reply) : List String :=
  ((replies.filter fun reply => reply.kind = kind ∧ reply.deviceId ∈ targets).map
    (·.deviceId)).eraseDups

/-- Every target has answered. -/
def Answered (kind : Kind) (targets : List String) (replies : List Reply) : Prop :=
  ∀ target ∈ targets, ∃ reply ∈ replies, reply.kind = kind ∧ reply.deviceId = target

section Arrivals

variable {kind : Kind} {targets : List String}

/-- Who has arrived is a target that has sent a reply of the kind, -/
theorem mem_arrivals_iff {replies : List Reply} {id : String} :
    id ∈ arrivals kind targets replies ↔
      id ∈ targets ∧ ∃ reply ∈ replies, reply.kind = kind ∧ reply.deviceId = id := by
  simp only [arrivals, List.mem_eraseDups, List.mem_map, List.mem_filter, decide_eq_true_eq]
  constructor
  · rintro ⟨reply, ⟨member, same, target⟩, rfl⟩
    exact ⟨target, reply, member, same, rfl⟩
  · rintro ⟨target, reply, member, same, rfl⟩
    exact ⟨reply, ⟨member, same, target⟩, rfl⟩

theorem eraseDups_concat (answered : List String) (id : String) :
    (answered ++ [id]).eraseDups =
      if id ∈ answered then answered.eraseDups else answered.eraseDups ++ [id] := by
  rw [List.eraseDups_append]
  split <;> simp_all [List.removeAll, List.eraseDups_cons]

/-- One more reply adds its device, if that is a target and has not answered before. -/
theorem arrivals_concat (replies : List Reply) (reply : Reply) :
    arrivals kind targets (replies ++ [reply]) =
      if reply.kind = kind ∧ reply.deviceId ∈ targets ∧
          reply.deviceId ∉ arrivals kind targets replies then
        arrivals kind targets replies ++ [reply.deviceId]
      else arrivals kind targets replies := by
  by_cases matching : reply.kind = kind ∧ reply.deviceId ∈ targets
  · have counted : [reply].filter (fun reply => reply.kind = kind ∧ reply.deviceId ∈ targets) =
        [reply] := by simp [matching]
    simp only [arrivals, List.filter_append, counted, List.map_append, List.map_singleton,
      eraseDups_concat, matching, true_and, List.mem_eraseDups]
    split <;> simp_all
  · rw [if_neg (fun counts => matching ⟨counts.1, counts.2.1⟩)]
    have ignored : [reply].filter (fun reply => reply.kind = kind ∧ reply.deviceId ∈ targets) =
        [] := by simpa using matching
    simp only [arrivals, List.filter_append, ignored, List.append_nil]

/-- and is listed once. -/
theorem nodup_arrivals (replies : List Reply) : (arrivals kind targets replies).Nodup := by
  induction replies using List.reverseRecOn with
  | nil => simp [arrivals]
  | append_singleton replies reply ih =>
      rw [arrivals_concat]
      split
      · rename_i counts
        rw [List.nodup_append]
        refine ⟨ih, by simp, ?_⟩
        rintro known member other last rfl
        exact counts.2.2 (List.mem_singleton.mp last ▸ member)
      · exact ih

theorem arrivals_subset (replies : List Reply) : arrivals kind targets replies ⊆ targets :=
  fun _ member => (mem_arrivals_iff.mp member).1

/-- Every target has answered just if there are as many first answers as targets. -/
theorem answered_iff (distinct : targets.Nodup) (replies : List Reply) :
    Answered kind targets replies ↔
      targets.length ≤ (arrivals kind targets replies).length := by
  constructor
  · intro all
    have part : targets ⊆ arrivals kind targets replies := fun target member =>
      mem_arrivals_iff.mpr ⟨member, all target member⟩
    exact (List.subperm_of_subset distinct part).length_le
  · intro enough target member
    have once : (arrivals kind targets replies).Nodup := nodup_arrivals replies
    have perm := (List.subperm_of_subset once (arrivals_subset replies)).perm_of_length_le enough
    exact (mem_arrivals_iff.mp (perm.mem_iff.mpr member)).2

theorem Answered.mono
    {some' more : List Reply}
    (answered : Answered kind targets some')
    (part : some' ⊆ more) :
    Answered kind targets more := by
  intro target member
  obtain ⟨reply, known, same⟩ := answered target member
  exact ⟨reply, part known, same⟩

end Arrivals

/-- A session once some devices have answered. -/
def after (session : Session) (answered : List String) : Session :=
  { session with responded := answered, receivedCount := answered.length }

/-- The tally of a session after replies before its deadline. -/
def Progress (session : Session) (replies : List Reply) (tally : Tally) : Prop :=
  (¬ Answered session.kind session.targets replies ∧
    tally.current = some (after session (arrivals session.kind session.targets replies))) ∨
  (Answered session.kind session.targets replies ∧ tally.current = none)

/-- A reply counts if it is the first one of a target to the session's broadcast. -/
def IsFirst (session : Session) (replies : List Reply) (reply : Reply) : Prop :=
  reply.kind = session.kind ∧ reply.deviceId ∈ session.targets ∧
    reply.deviceId ∉ arrivals session.kind session.targets replies

section Steps

variable {session : Session}

theorem arrivals_of_first {replies : List Reply} {reply : Reply}
    (first : IsFirst session replies reply) :
    arrivals session.kind session.targets (replies ++ [reply]) =
      arrivals session.kind session.targets replies ++ [reply.deviceId]  :=
  (arrivals_concat replies reply).trans (if_pos first)

theorem arrivals_of_not_first {replies : List Reply} {reply : Reply}
    (idle : ¬ IsFirst session replies reply) :
    arrivals session.kind session.targets (replies ++ [reply]) =
      arrivals session.kind session.targets replies  :=
  (arrivals_concat replies reply).trans (if_neg idle)

/-- What a reply before the deadline does to the tally of a session. -/
theorem Progress.record
    (expected : session.expectedCount = session.targets.length)
    (distinct : session.targets.Nodup)
    {replies : List Reply}
    {tally : Tally}
    (progress : Progress session replies tally)
    {reply : Reply}
    (early : reply.now < session.deadline) :
    Progress session (replies ++ [reply])
      (tally.record reply.kind reply.deviceId reply.now).1 ∧
    ((tally.record reply.kind reply.deviceId reply.now).2.tallied = true ↔
      IsFirst session replies reply) ∧
    ((tally.record reply.kind reply.deviceId reply.now).2.completed.isSome = true ↔
      Answered session.kind session.targets (replies ++ [reply]) ∧
        ¬ Answered session.kind session.targets replies) := by
  rcases progress with ⟨lacking, current⟩ | ⟨answered, closed⟩
  · have waiting : tally.pending reply.now =
        some (after session (arrivals session.kind session.targets replies)) :=
      pending_eq_some_iff.mpr ⟨current, early⟩
    rw [record_of_pending waiting]
    by_cases first : IsFirst session replies reply
    · have counts : (after session (arrivals session.kind session.targets replies)).Counts
          reply.kind reply.deviceId := first
      have next := arrivals_of_first first
      have complete : ((after session (arrivals session.kind session.targets replies)).tally
          reply.deviceId).Complete ↔
            Answered session.kind session.targets (replies ++ [reply]) := by
        rw [answered_iff distinct, next, List.length_append, ← expected]
        rfl
      rw [if_pos counts]
      by_cases all : Answered session.kind session.targets (replies ++ [reply])
      · rw [if_pos (complete.mpr all)]
        exact ⟨.inr ⟨all, rfl⟩, by simp [first], by simp [all, lacking]⟩
      · rw [if_neg (mt complete.mp all)]
        refine ⟨.inl ⟨all, ?_⟩, by simp [first], by simp [all]⟩
        simp [next, after, Session.tally]
    · have idle : ¬ (after session (arrivals session.kind session.targets replies)).Counts
          reply.kind reply.deviceId := first
      have same : ¬ Answered session.kind session.targets (replies ++ [reply]) := by
        rw [answered_iff distinct, arrivals_of_not_first first, ← answered_iff distinct]
        exact lacking
      rw [if_neg idle]
      refine ⟨.inl ⟨same, ?_⟩, by simp [first], by simp [same]⟩
      rw [arrivals_of_not_first first]
      exact current
  · have closed : tally.pending reply.now = none := by simp [pending, closed]
    have still : Answered session.kind session.targets (replies ++ [reply]) :=
      answered.mono (List.subset_append_left _ _)
    have idle : ¬ IsFirst session replies reply := fun first =>
      first.2.2 (mem_arrivals_iff.mpr ⟨first.2.1, answered _ first.2.1⟩)
    rw [record_of_closed closed]
    exact ⟨.inr ⟨still, rfl⟩, by simp [idle], by simp [answered]⟩

/-- The devices whose replies were tallied, in order. -/
def talliedIds (replies : List Reply) (receipts : List Receipt) : List String :=
  ((replies.zip receipts).filter (·.2.tallied)).map (·.1.deviceId)

/-- What replies before the deadline do, one after the other. -/
theorem Progress.recordAll
    (expected : session.expectedCount = session.targets.length)
    (distinct : session.targets.Nodup)
    {before : List Reply}
    {tally : Tally}
    (progress : Progress session before tally)
    (replies : List Reply)
    (early : ∀ reply ∈ replies, reply.now < session.deadline) :
    Progress session (before ++ replies) (tally.recordAll replies).1 ∧
    arrivals session.kind session.targets before ++
        talliedIds replies (tally.recordAll replies).2 =
      arrivals session.kind session.targets (before ++ replies) ∧
    ∀ place receipt, (tally.recordAll replies).2[place]? = some receipt ->
      (receipt.completed.isSome = true ↔
        Answered session.kind session.targets (before ++ replies.take (place + 1)) ∧
          ¬ Answered session.kind session.targets (before ++ replies.take place)) := by
  induction replies generalizing before tally with
  | nil => simpa [Tally.recordAll, talliedIds] using progress
  | cons reply replies ih =>
      obtain ⟨next, tallied, completed⟩ :=
        progress.record expected distinct (early reply (by simp))
      obtain ⟨final, ids, places⟩ := ih next fun other member => early other (by simp [member])
      rw [List.append_assoc] at final ids
      refine ⟨final, ?_, fun place receipt found => ?_⟩
      · rw [List.singleton_append] at ids
        rw [← ids]
        by_cases first : IsFirst session before reply
        · rw [arrivals_of_first first]
          simp [talliedIds, Tally.recordAll, tallied.mpr first]
        · rw [arrivals_of_not_first first]
          simp [talliedIds, Tally.recordAll, mt tallied.mp first]
      · cases place with
        | zero =>
            simp only [Tally.recordAll, List.getElem?_cons_zero, Option.some.injEq] at found
            subst found
            simpa using completed
        | succ place =>
            have here := places place receipt found
            simpa [List.append_assoc] using here

end Steps

theorem length_recordAll (tally : Tally) (replies : List Reply) :
    (tally.recordAll replies).2.length = replies.length := by
  induction replies generalizing tally with
  | nil => rfl
  | cons reply replies ih => simp [recordAll, ih]

theorem length_talliedIds
    {replies : List Reply}
    {receipts : List Receipt}
    (lengths : receipts.length = replies.length) :
    (talliedIds replies receipts).length = receipts.countP (·.tallied) := by
  induction receipts generalizing replies with
  | nil => simp [talliedIds]
  | cons receipt receipts ih =>
      cases replies with
      | nil => simp at lengths
      | cons reply replies =>
          have rest := ih (Nat.succ.inj lengths)
          by_cases tallied : receipt.tallied = true <;>
            simp_all [talliedIds]

/-- Whether a receipt reports a completion at all is whether every target has answered. -/
theorem exists_completed_iff
    {kind : Kind}
    {targets : List String}
    {replies : List Reply}
    {receipts : List Receipt}
    (some' : targets ≠ [])
    (lengths : receipts.length = replies.length)
    (places : ∀ place receipt, receipts[place]? = some receipt ->
      (receipt.completed.isSome = true ↔
        Answered kind targets (replies.take (place + 1)) ∧
          ¬ Answered kind targets (replies.take place))) :
    (∃ receipt ∈ receipts, receipt.completed.isSome = true) ↔
      Answered kind targets replies := by
  constructor
  · rintro ⟨receipt, member, completed⟩
    obtain ⟨place, found⟩ := List.getElem?_of_mem member
    exact ((places place receipt found).mp completed).1.mono (List.take_subset _ _)
  · -- The first place at which all have answered is one at which they had not before.
    intro answered
    by_contra never
    have lacking (place : Nat) (inside : place ≤ replies.length) :
        ¬ Answered kind targets (replies.take place) := by
      induction place with
      | zero =>
          intro nobody
          obtain ⟨target, rest, rfl⟩ := List.exists_cons_of_ne_nil some'
          obtain ⟨reply, member, _⟩ := nobody target (by simp)
          simp at member
      | succ place ih =>
          intro all
          have here : place < receipts.length := by omega
          have completed := (places place receipts[place] (List.getElem?_eq_getElem here)).mpr
            ⟨all, ih (by omega)⟩
          exact never ⟨_, List.getElem_mem here, completed⟩
    exact lacking replies.length (Nat.le_refl _) (by simpa using answered)

/-- A session that has just been opened has made no progress. -/
theorem progress_opened
    {tally : Tally}
    {now : Int}
    (free : ¬ tally.Busy now)
    (kind : Kind)
    (requester : Endpoint)
    {targets : List String}
    (some' : targets ≠ []) :
    Progress (Session.new (tally.sequence + 1) kind requester targets now tally.responseTimeout)
      [] (tally.begin kind requester targets now).1 := by
  obtain ⟨target, rest, rfl⟩ := List.exists_cons_of_ne_nil some'
  rw [begin_of_not_busy free]
  refine .inl ⟨fun nobody => ?_, rfl⟩
  obtain ⟨reply, member, _⟩ := nobody target (List.mem_cons_self ..)
  simp at member

/--
After a broadcast to distinct devices, of any replies before its deadline: the
session is closed just if every target has answered; a reply completes it just
if with it every target has answered, and before it not; the devices tallied are
the targets that have answered, in the order of their first answer. So the order
of the replies decides neither whether the session is closed and completed nor
which devices are tallied.
-/
theorem tally_exact
    (tally : Tally)
    (now : Int)
    (free : ¬ tally.Busy now)
    (kind : Kind)
    (requester : Endpoint)
    (targets : List String)
    (some' : targets ≠ [])
    (distinct : targets.Nodup)
    (replies : List Reply)
    (early : ∀ reply ∈ replies, reply.now < now + tally.responseTimeout) :
    let opened := (tally.begin kind requester targets now).1
    ((opened.recordAll replies).1.current = none ↔ Answered kind targets replies) ∧
    (∀ place receipt, (opened.recordAll replies).2[place]? = some receipt ->
      (receipt.completed.isSome = true ↔
        Answered kind targets (replies.take (place + 1)) ∧
          ¬ Answered kind targets (replies.take place))) ∧
    talliedIds replies (opened.recordAll replies).2 = arrivals kind targets replies ∧
    (opened.recordAll replies).2.countP (·.tallied) = (arrivals kind targets replies).length ∧
    ((∃ receipt ∈ (opened.recordAll replies).2, receipt.completed.isSome = true) ↔
      Answered kind targets replies) ∧
    ∀ other : List Reply, other.Perm replies ->
      ((opened.recordAll other).1.current = none ↔
        (opened.recordAll replies).1.current = none) ∧
      (∀ id, id ∈ talliedIds other (opened.recordAll other).2 ↔
        id ∈ talliedIds replies (opened.recordAll replies).2) ∧
      ((∃ receipt ∈ (opened.recordAll other).2, receipt.completed.isSome = true) ↔
        ∃ receipt ∈ (opened.recordAll replies).2, receipt.completed.isSome = true) := by
  intro opened
  have start := progress_opened free kind requester some'
  -- What the run lemma says of any replies before the deadline.
  have run (replies : List Reply)
      (early : ∀ reply ∈ replies, reply.now < now + tally.responseTimeout) :
      ((opened.recordAll replies).1.current = none ↔ Answered kind targets replies) ∧
      talliedIds replies (opened.recordAll replies).2 = arrivals kind targets replies ∧
      (∀ place receipt, (opened.recordAll replies).2[place]? = some receipt ->
        (receipt.completed.isSome = true ↔
          Answered kind targets (replies.take (place + 1)) ∧
            ¬ Answered kind targets (replies.take place))) := by
    obtain ⟨final, ids, places⟩ := start.recordAll rfl distinct replies early
    refine ⟨?_, ids, places⟩
    rcases final with ⟨lacking, current⟩ | ⟨answered, closed⟩
    · have lacking : ¬ Answered kind targets replies := lacking
      simp only [opened, current, lacking, reduceCtorEq]
    · have answered : Answered kind targets replies := answered
      simp only [opened, closed, answered]
  obtain ⟨closed, ids, places⟩ := run replies early
  have completed := exists_completed_iff some' (length_recordAll opened replies) places
  refine ⟨closed, places, ids, ?_, completed, fun other perm => ?_⟩
  · rw [← ids, length_talliedIds (length_recordAll opened replies)]
  · obtain ⟨closed', ids', places'⟩ := run other fun reply member =>
      early reply (perm.mem_iff.mp member)
    have same : Answered kind targets other ↔ Answered kind targets replies :=
      ⟨fun answered => answered.mono perm.subset, fun answered => answered.mono perm.symm.subset⟩
    refine ⟨closed'.trans (same.trans closed.symm), fun id => ?_, ?_⟩
    · rw [ids, ids', mem_arrivals_iff, mem_arrivals_iff]
      simp only [perm.mem_iff]
    · rw [completed, exists_completed_iff some' (length_recordAll opened other) places']
      exact same

/-- Two devices, of which one answers twice and a stranger once. -/
theorem tally_exact_two :
    ¬ ({ responseTimeout := 2000, policy := .reject } : Tally).Busy 0 ∧
    (["a", "b"] : List String) ≠ [] ∧ (["a", "b"] : List String).Nodup ∧
    (∀ reply ∈ ([⟨.time, "a", 1⟩, ⟨.time, "x", 2⟩, ⟨.time, "a", 3⟩, ⟨.time, "b", 4⟩] :
      List Reply), reply.now < 0 + 2000) ∧
    arrivals .time ["a", "b"]
      [⟨.time, "a", 1⟩, ⟨.time, "x", 2⟩, ⟨.time, "a", 3⟩, ⟨.time, "b", 4⟩] = ["a", "b"] ∧
    (((({ responseTimeout := 2000, policy := .reject } : Tally).begin .time default ["a", "b"]
      0).1).recordAll
      [⟨.time, "a", 1⟩, ⟨.time, "x", 2⟩, ⟨.time, "a", 3⟩, ⟨.time, "b", 4⟩]).2.countP
        (·.tallied) =
      (arrivals .time ["a", "b"]
        [⟨.time, "a", 1⟩, ⟨.time, "x", 2⟩, ⟨.time, "a", 3⟩, ⟨.time, "b", 4⟩]).length := by
  have free : ¬ ({ responseTimeout := 2000, policy := .reject } : Tally).Busy 0 := by
    simp [Busy]
  have early : ∀ reply ∈ ([⟨.time, "a", 1⟩, ⟨.time, "x", 2⟩, ⟨.time, "a", 3⟩, ⟨.time, "b", 4⟩] :
      List Reply), reply.now < 0 + 2000 := by simp
  exact ⟨free, by simp, by decide, early, by decide,
    (tally_exact _ 0 free .time default ["a", "b"] (by simp) (by decide) _ early).2.2.2.1⟩

end Tally
end CameraFleet
