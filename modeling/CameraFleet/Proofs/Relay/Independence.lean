import CameraFleet.Proofs.Relay.Run

/-!
# Messages that do not depend on each other

A lifecycle message (a registration, a heartbeat or a farewell) touches the
registry alone, and a reply the tally alone; lifecycle messages of different
known devices touch different records. So either order leads to the same state
and to the same datagrams, and a lifecycle message may be moved past replies.
-/

namespace CameraFleet
namespace Relay

open Device Wire

/-- A message with its sender and its time. -/
structure Arrival where
  /-- The message. -/
  message : Message
  /-- Who sent it. -/
  sender : Endpoint
  /-- When it arrives. -/
  now : Int
  deriving DecidableEq

/-- What a message that arrives leads to. -/
def meet (relay : Relay) (arrival : Arrival) : Reaction :=
  relay.dispatch arrival.message arrival.sender arrival.now

/-- The device of a lifecycle message. -/
def lifecycleId? : Message -> Option String
  | .register id | .heartbeat id | .unregister id => some id
  | _ => none

/-- Whether a message is a reply. -/
def isReply : Message -> Bool
  | .reply _ _ _ => true
  | _ => false

/-- Two messages lead to the same state in either order, and each to the same datagrams. -/
def Commute (relay : Relay) (first second : Arrival) : Prop :=
  ((relay.meet first).relay.meet second).relay = ((relay.meet second).relay.meet first).relay ∧
  ((relay.meet second).relay.meet first).out = (relay.meet first).out ∧
  ((relay.meet first).relay.meet second).out = (relay.meet second).out

/-! ## Lifecycle messages and replies -/

/-- A lifecycle message does not see the tally, and leaves it alone. -/
theorem meet_lifecycle
    {arrival : Arrival}
    {id : String}
    (lifecycle : lifecycleId? arrival.message = some id)
    (relay : Relay)
    (tally : Tally) :
    ({ relay with tally } : Relay).meet arrival =
      { (relay.meet arrival) with relay := { (relay.meet arrival).relay with tally } } ∧
    (relay.meet arrival).relay.tally = relay.tally := by
  obtain ⟨message, sender, now⟩ := arrival
  cases message with
  | register other => exact ⟨rfl, rfl⟩
  | unregister other => exact ⟨rfl, rfl⟩
  | heartbeat other =>
      simp only [meet, dispatch, heartbeat]
      split
      · exact ⟨rfl, rfl⟩
      · split <;> exact ⟨rfl, rfl⟩
  | _ => simp [lifecycleId?] at lifecycle

/-- A reply does not see the registry, and leaves it alone. -/
theorem meet_reply
    {arrival : Arrival}
    (reply : isReply arrival.message = true)
    (relay : Relay)
    (registry : Registry) :
    ({ relay with registry } : Relay).meet arrival =
      { (relay.meet arrival) with relay := { (relay.meet arrival).relay with registry } } ∧
    (relay.meet arrival).relay.registry = relay.registry := by
  obtain ⟨message, sender, now⟩ := arrival
  cases message with
  | reply kind id payload =>
      simp only [meet, dispatch, Relay.reply]
      cases (relay.tally.record kind id now).2.forwardTo <;> exact ⟨rfl, rfl⟩
  | _ => simp [isReply] at reply

theorem meet_unknownHeartbeat (relay : Relay) (arrival : Arrival)
    (plain : (∃ id, lifecycleId? arrival.message = some id) ∨ isReply arrival.message = true) :
    (relay.meet arrival).relay.unknownHeartbeat = relay.unknownHeartbeat := by
  obtain ⟨message, sender, now⟩ := arrival
  rcases plain with ⟨id, lifecycle⟩ | reply
  · cases message with
    | register other => rfl
    | unregister other => rfl
    | heartbeat other =>
        simp only [meet, dispatch, heartbeat]
        split
        · rfl
        · split <;> rfl
    | _ => simp [lifecycleId?] at lifecycle
  · cases message with
    | reply kind id payload =>
        simp only [meet, dispatch, Relay.reply]
        cases (relay.tally.record kind id now).2.forwardTo <;> rfl
    | _ => simp [isReply] at reply

/-- A lifecycle message and a reply commute, in any state. -/
theorem commute_lifecycle_reply
    (relay : Relay)
    {lifecycle reply : Arrival}
    {id : String}
    (isLifecycle : lifecycleId? lifecycle.message = some id)
    (reply' : isReply reply.message = true) :
    relay.Commute lifecycle reply := by
  have keptTally := (meet_lifecycle isLifecycle relay relay.tally).2
  have keptRegistry := (meet_reply reply' relay relay.registry).2
  have keptPolicy := meet_unknownHeartbeat relay lifecycle (.inl ⟨id, isLifecycle⟩)
  have keptPolicy' := meet_unknownHeartbeat relay reply (.inr reply')
  -- Each one sees the other's state as a change of the part that it does not look at.
  have afterLifecycle : (relay.meet lifecycle).relay =
      { relay with registry := (relay.meet lifecycle).relay.registry } := by
    rw [← keptTally, ← keptPolicy]
  have afterReply : (relay.meet reply).relay =
      { relay with tally := (relay.meet reply).relay.tally } := by
    rw [← keptRegistry, ← keptPolicy']
  have second := (meet_reply reply' relay (relay.meet lifecycle).relay.registry).1
  have first := (meet_lifecycle isLifecycle relay (relay.meet reply).relay.tally).1
  rw [← afterLifecycle] at second
  rw [← afterReply] at first
  refine ⟨?_, by rw [first], by rw [second]⟩
  rw [first, second]
  simp only [Relay.mk.injEq, true_and]
  exact keptPolicy'.trans keptPolicy.symm

/-! ## Lifecycle messages of known devices -/

/-- What a lifecycle message does to the record of its device. -/
def changeOf (arrival : Arrival) : Record -> Record :=
  match arrival.message with
  | .register id =>
      if ValidId id then (·.renew arrival.sender arrival.now) else id'
  | .heartbeat _ => (·.beat arrival.now)
  | .unregister _ => (·.deactivate)
  | _ => id'
where id' : Record -> Record := fun record => record

/-- What a lifecycle message of a known device is answered. -/
def answerOf (arrival : Arrival) : List Outbound :=
  match arrival.message with
  | .register id =>
      [⟨arrival.sender, .registered (if ValidId id then "OK" else "INVALID")⟩]
  | _ => []

theorem id_changeOf (arrival : Arrival) (record : Record) :
    (changeOf arrival record).id = record.id := by
  obtain ⟨message, sender, now⟩ := arrival
  cases message with
  | register id =>
      simp only [changeOf]
      split <;> rfl
  | _ => rfl

theorem update_self (registry : Registry) (id : String) :
    registry.update id changeOf.id' = registry := by
  have same : (fun record : Record =>
      if record.id = id then changeOf.id' record else record) = fun record => record := by
    funext record
    split <;> rfl
  simp [Registry.update, same]

/-- A lifecycle message of a known device changes its record, and nothing else. -/
theorem meet_known
    {arrival : Arrival}
    {id : String}
    (lifecycle : lifecycleId? arrival.message = some id)
    {relay : Relay}
    (known : id ∈ relay.registry.ids) :
    (relay.meet arrival).relay =
      { relay with registry := relay.registry.update id (changeOf arrival) } ∧
    (relay.meet arrival).out = answerOf arrival := by
  rw [← Registry.contains_iff] at known
  obtain ⟨record, found⟩ := Option.isSome_iff_exists.mp known
  obtain ⟨message, sender, now⟩ := arrival
  cases message with
  | register other =>
      obtain rfl := Option.some.inj lifecycle
      by_cases valid : ValidId other
      · simp [meet, dispatch, register, Registry.register, valid, found, changeOf, answerOf, status]
      · simp [meet, dispatch, register, Registry.register, valid, changeOf, answerOf, status,
          update_self]
  | heartbeat other =>
      obtain rfl := Option.some.inj lifecycle
      simp [meet, dispatch, heartbeat, Registry.heartbeat, known, changeOf, answerOf]
  | unregister other =>
      obtain rfl := Option.some.inj lifecycle
      exact ⟨rfl, rfl⟩
  | _ => simp [lifecycleId?] at lifecycle

theorem ids_update
    (registry : Registry)
    (id : String)
    {change : Record -> Record}
    (keeps : ∀ record, (change record).id = record.id) :
    (registry.update id change).ids = registry.ids := by
  simp only [Registry.ids, Registry.update, List.map_map]
  refine List.map_congr_left fun record _ => ?_
  simp only [Function.comp_apply]
  split
  · exact keeps record
  · rfl

/-- Changes of different records can be made in either order. -/
theorem update_update
    (registry : Registry)
    {left right : String}
    (different : left ≠ right)
    {change change' : Record -> Record}
    (keeps : ∀ record, (change record).id = record.id)
    (keeps' : ∀ record, (change' record).id = record.id) :
    (registry.update left change).update right change' =
      (registry.update right change').update left change := by
  simp only [Registry.update, List.map_map]
  congr 1
  refine List.map_congr_left fun record _ => ?_
  simp only [Function.comp_apply]
  by_cases isLeft : record.id = left
  · have notRight : record.id ≠ right := isLeft ▸ different
    simp [isLeft, keeps, different]
  · by_cases isRight : record.id = right
    · simp [isRight, keeps', different.symm]
    · simp [isLeft, isRight]

/-- Lifecycle messages of different known devices commute. -/
theorem commute_lifecycle_lifecycle
    {relay : Relay}
    {first second : Arrival}
    {left right : String}
    (isFirst : lifecycleId? first.message = some left)
    (isSecond : lifecycleId? second.message = some right)
    (different : left ≠ right)
    (knownLeft : left ∈ relay.registry.ids)
    (knownRight : right ∈ relay.registry.ids) :
    relay.Commute first second := by
  obtain ⟨afterFirst, outFirst⟩ := meet_known isFirst knownLeft
  obtain ⟨afterSecond, outSecond⟩ := meet_known isSecond knownRight
  have stillRight : right ∈ (relay.meet first).relay.registry.ids := by
    rw [afterFirst, ids_update _ _ (id_changeOf first)]
    exact knownRight
  have stillLeft : left ∈ (relay.meet second).relay.registry.ids := by
    rw [afterSecond, ids_update _ _ (id_changeOf second)]
    exact knownLeft
  obtain ⟨both, outSecond'⟩ := meet_known isSecond stillRight
  obtain ⟨both', outFirst'⟩ := meet_known isFirst stillLeft
  refine ⟨?_, outFirst'.trans outFirst.symm, outSecond'.trans outSecond.symm⟩
  rw [both, both', afterFirst, afterSecond]
  simp only [update_update _ different (id_changeOf first) (id_changeOf second)]

/-! ## Sequences -/

/-- The relay after messages. -/
def meetAll (relay : Relay) (arrivals : List Arrival) : Relay :=
  arrivals.foldl (fun relay arrival => (relay.meet arrival).relay) relay

/-- The messages of a sequence, each with the datagrams that it leads to. -/
def outs (relay : Relay) : List Arrival -> List (Arrival × List Outbound)
  | [] => []
  | arrival :: arrivals =>
      (arrival, (relay.meet arrival).out) :: outs (relay.meet arrival).relay arrivals

/-- A sequence in which lifecycle messages have been moved past replies. -/
inductive Moved : List Arrival -> List Arrival -> Prop
  | refl (arrivals : List Arrival) : Moved arrivals arrivals
  /-- A lifecycle message and a reply beside each other change places. -/
  | swap (before after : List Arrival) {lifecycle reply : Arrival} {id : String}
      (isLifecycle : lifecycleId? lifecycle.message = some id)
      (reply' : isReply reply.message = true) :
      Moved (before ++ lifecycle :: reply :: after) (before ++ reply :: lifecycle :: after)
  | symm {left right : List Arrival} : Moved left right -> Moved right left
  | trans {left middle right : List Arrival} :
      Moved left middle -> Moved middle right -> Moved left right

theorem meetAll_append (relay : Relay) (before after : List Arrival) :
    relay.meetAll (before ++ after) = (relay.meetAll before).meetAll after := by
  simp [meetAll]

theorem outs_append (relay : Relay) (before after : List Arrival) :
    outs relay (before ++ after) = outs relay before ++ outs (relay.meetAll before) after := by
  induction before generalizing relay with
  | nil => rfl
  | cons arrival before ih =>
      rw [List.cons_append, outs, ih]
      rfl

/-- Moving lifecycle messages past replies shows neither in the state nor in any answer. -/
theorem Moved.same
    {left right : List Arrival}
    (moved : Moved left right)
    (relay : Relay) :
    relay.meetAll left = relay.meetAll right ∧ (outs relay left).Perm (outs relay right) := by
  induction moved with
  | refl arrivals => exact ⟨rfl, .refl _⟩
  | symm _ ih => exact ⟨ih.1.symm, ih.2.symm⟩
  | trans _ _ ih ih' => exact ⟨ih.1.trans ih'.1, ih.2.trans ih'.2⟩
  | swap before after isLifecycle reply' =>
      obtain ⟨same, outFirst, outSecond⟩ :=
        commute_lifecycle_reply (relay.meetAll before) isLifecycle reply'
      constructor
      · rw [meetAll_append, meetAll_append]
        simp only [meetAll, List.foldl_cons] at same ⊢
        rw [same]
      · rw [outs_append, outs_append]
        refine List.Perm.append_left _ ?_
        simp only [outs, same, outFirst, outSecond]
        exact .swap _ _ _

/--
A lifecycle message and a reply commute in every state, and so do lifecycle
messages of two different devices that have records. So moving lifecycle
messages past replies, but not past broadcasts, changes neither the final state
nor the datagrams that any message of the sequence leads to.
-/
theorem independent_messages_commute
    (relay : Relay) :
    (∀ lifecycle reply : Arrival, ∀ id, lifecycleId? lifecycle.message = some id ->
      isReply reply.message = true -> relay.Commute lifecycle reply) ∧
    (∀ first second : Arrival, ∀ left right, lifecycleId? first.message = some left ->
      lifecycleId? second.message = some right -> left ≠ right ->
      left ∈ relay.registry.ids -> right ∈ relay.registry.ids ->
      relay.Commute first second) ∧
    ∀ left right, Moved left right ->
      relay.meetAll left = relay.meetAll right ∧ (outs relay left).Perm (outs relay right) :=
  ⟨fun _ _ _ isLifecycle reply' => commute_lifecycle_reply relay isLifecycle reply',
    fun _ _ _ _ isFirst isSecond different knownLeft knownRight =>
      commute_lifecycle_lifecycle isFirst isSecond different knownLeft knownRight,
    fun _ _ moved => moved.same relay⟩

/-- A relay with two devices that have been asked for the time. -/
def withTwo : Relay :=
  (new {}).meetAll
    [⟨.register "a", ⟨"10.0.0.1", 5001⟩, 0⟩, ⟨.register "b", ⟨"10.0.0.2", 5001⟩, 1⟩,
      ⟨.request .time, ⟨"10.0.0.9", 6000⟩, 2⟩]

/-- A farewell of one device is moved past the reply of the other, and past its heartbeat. -/
theorem independent_messages_commute_two :
    "a" ∈ withTwo.registry.ids ∧ "b" ∈ withTwo.registry.ids ∧
    withTwo.Commute ⟨.unregister "a", ⟨"10.0.0.1", 5001⟩, 5⟩
      ⟨.heartbeat "b", ⟨"10.0.0.2", 5001⟩, 6⟩ ∧
    withTwo.Commute ⟨.unregister "a", ⟨"10.0.0.1", 5001⟩, 5⟩
      ⟨.reply .time "b" "noon", ⟨"10.0.0.2", 5001⟩, 6⟩ ∧
    withTwo.meetAll [⟨.unregister "a", ⟨"10.0.0.1", 5001⟩, 5⟩,
        ⟨.reply .time "b" "noon", ⟨"10.0.0.2", 5001⟩, 6⟩] =
      withTwo.meetAll [⟨.reply .time "b" "noon", ⟨"10.0.0.2", 5001⟩, 6⟩,
        ⟨.unregister "a", ⟨"10.0.0.1", 5001⟩, 5⟩] := by
  obtain ⟨withReply, withLifecycle, sequences⟩ := independent_messages_commute withTwo
  have knownA : "a" ∈ withTwo.registry.ids := by decide +kernel
  have knownB : "b" ∈ withTwo.registry.ids := by decide +kernel
  exact ⟨knownA, knownB, withLifecycle _ _ "a" "b" rfl rfl (by decide) knownA knownB,
    withReply _ _ "a" rfl rfl, (sequences _ _ (.swap [] [] rfl rfl)).1⟩

end Relay
end CameraFleet
