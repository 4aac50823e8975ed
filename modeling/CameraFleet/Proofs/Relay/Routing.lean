import CameraFleet.Proofs.Relay.Run

/-!
# Where replies go

A reply goes to whoever asked last without being refused, whatever has become of
the session since. The tally takes the destination from its session in some
cases and from its last requester in others; in every run the two agree.
-/

namespace CameraFleet
namespace Relay

open Device Wire

/-- Whether a broadcast was answered that the relay is busy. -/
def answeredBusy (out : List Outbound) : Bool :=
  out.any fun outbound =>
    match outbound.message with
    | .error code _ => code == "BUSY"
    | _ => false

/-- Who asked last without being refused, after a step. -/
def askerAfter (relay : Relay) (known : Option Endpoint) : Step -> Option Endpoint
  | .take (.request kind) sender now =>
      if answeredBusy (relay.dispatch (.request kind) sender now).out then known else some sender
  | _ => known

/-- Who asked last without being refused, after steps. -/
def asker (relay : Relay) (known : Option Endpoint) : List Step -> Option Endpoint
  | [] => known
  | step :: steps => asker (relay.advance step) (askerAfter relay known step) steps

/-- The tally knows who asked last, and its session has the same requester. -/
structure Agrees (relay : Relay) (known : Option Endpoint) : Prop where
  last : relay.tally.lastRequester = known
  session : ∀ session, relay.tally.current = some session -> known = some session.requester

theorem answeredBusy_busyNotice (sender : Endpoint) (session : Session) :
    answeredBusy [⟨sender, busyNotice session⟩] = true := by
  simp [answeredBusy, busyNotice]

/-- A relay that is free answers no broadcast with `BUSY`. -/
theorem answeredBusy_of_not_busy
    {relay : Relay}
    {now : Int}
    (free : ¬ relay.tally.Busy now)
    (kind : Kind)
    (sender : Endpoint) :
    answeredBusy (relay.dispatch (.request kind) sender now).out = false := by
  have out : (relay.dispatch (.request kind) sender now).out = _ :=
    (broadcast_of_not_busy free kind sender).2
  rw [out]
  split <;> simp [answeredBusy, nobodyNotice]

/-- Agreement hangs on the tally alone. -/
theorem Agrees.of_tally_eq
    {before after : Relay}
    {known : Option Endpoint}
    (agrees : before.Agrees known)
    (same : after.tally = before.tally) :
    after.Agrees known :=
  ⟨same ▸ agrees.last, same ▸ agrees.session⟩

/-- A session that times out leaves its requester known. -/
theorem Agrees.expire
    {relay : Relay}
    {known : Option Endpoint}
    (agrees : relay.Agrees known)
    (now : Int) :
    (relay.advance (.expire now)).Agrees known := by
  simp only [advance, Tally.expire_eq]
  refine ⟨agrees.last, fun session current => ?_⟩
  exact agrees.session session (Tally.pending_eq_some_iff.mp current).1

/-- A broadcast makes its sender the one who is known, unless the relay is busy. -/
theorem Agrees.request
    {relay : Relay}
    {known : Option Endpoint}
    (agrees : relay.Agrees known)
    (kind : Kind)
    (sender : Endpoint)
    (now : Int) :
    (relay.dispatch (.request kind) sender now).relay.Agrees
      (askerAfter relay known (.take (.request kind) sender now)) := by
  simp only [askerAfter]
  by_cases busy : relay.tally.Busy now
  · obtain ⟨policy, session, current⟩ := busy
    obtain ⟨after, out⟩ :=
      broadcast_of_busy policy (Tally.pending_eq_some_iff.mpr current) kind sender
    have out : (relay.dispatch (.request kind) sender now).out = _ := out
    rw [out, answeredBusy_busyNotice, if_pos rfl]
    have same : (relay.dispatch (.request kind) sender now).relay.tally = relay.tally := by
      simp only [dispatch, after]
    exact agrees.of_tally_eq same
  · have after : (relay.dispatch (.request kind) sender now).relay = _ :=
      (broadcast_of_not_busy busy kind sender).1
    rw [answeredBusy_of_not_busy busy, if_neg (by simp), after]
    refine ⟨rfl, fun session current => ?_⟩
    simp only [opened, Tally.openSession] at current
    split at current
    · simp at current
    · rw [← Option.some.inj current]
      rfl

theorem Agrees.reply
    {relay : Relay}
    {known : Option Endpoint}
    (agrees : relay.Agrees known)
    (kind : Kind)
    (id payload : String)
    (sender : Endpoint)
    (now : Int) :
    (relay.dispatch (.reply kind id payload) sender now).relay.Agrees known := by
  rw [(dispatch_reply relay kind id payload sender now).1]
  cases waiting : relay.tally.pending now with
  | none =>
      rw [Tally.record_of_closed waiting]
      exact ⟨agrees.last, by simp [Tally.close]⟩
  | some session =>
      have requester := agrees.session session (Tally.pending_eq_some_iff.mp waiting).1
      rw [Tally.record_of_pending waiting]
      split
      · split
        · exact ⟨agrees.last, by simp [Tally.close]⟩
        · refine ⟨agrees.last, fun other current => ?_⟩
          rw [← Option.some.inj current]
          exact requester
      · exact agrees

/-- A step keeps the tally in agreement with who asked last. -/
theorem Agrees.advance
    {relay : Relay}
    {known : Option Endpoint}
    (agrees : relay.Agrees known)
    (step : Step) :
    (relay.advance step).Agrees (askerAfter relay known step) := by
  cases step with
  | expire now => exact agrees.expire now
  | sweep now => exact agrees.of_tally_eq rfl
  | take message sender now =>
      rcases dispatch_lifecycle relay message sender now with
        ⟨kind, rfl⟩ | ⟨kind, id, payload, rfl⟩ | same | ⟨call, called⟩
      · exact agrees.request kind sender now
      · exact agrees.reply kind id payload sender now
      · cases message with
        | request kind => exact agrees.request kind sender now
        | _ => exact agrees.of_tally_eq (congrArg Relay.tally same)
      · have tally : (relay.advance (.take message sender now)).tally = relay.tally := by
          simp only [Relay.advance, called]
        cases message with
        | request kind => exact agrees.request kind sender now
        | _ => exact agrees.of_tally_eq tally

/-- A run keeps the tally in agreement with who asked last. -/
theorem Agrees.run
    {relay : Relay}
    {known : Option Endpoint}
    (agrees : relay.Agrees known)
    (steps : List Step) :
    (relay.run steps).Agrees (asker relay known steps) := by
  induction steps generalizing relay known with
  | nil => exact agrees
  | cons step steps ih => exact ih (agrees.advance step)

/-- A new relay knows of nobody. -/
theorem agrees_new (config : Config) : (new config).Agrees none :=
  ⟨rfl, by simp [new]⟩

/-- A reply is sent to who asked last, and to nobody else. -/
theorem Agrees.out_reply
    {relay : Relay}
    {known : Option Endpoint}
    (agrees : relay.Agrees known)
    (kind : Kind)
    (id payload : String)
    (sender : Endpoint)
    (now : Int) :
    (relay.dispatch (.reply kind id payload) sender now).out =
      (known.map fun target => ⟨target, .reply kind id payload⟩).toList := by
  rw [(dispatch_reply relay kind id payload sender now).2]
  cases waiting : relay.tally.pending now with
  | none => rw [Tally.record_of_closed waiting, agrees.last]
  | some session =>
      rw [Tally.record_of_pending waiting,
        agrees.session session (Tally.pending_eq_some_iff.mp waiting).1]
      split
      · split <;> rfl
      · rfl

/-- Who asked last has asked, and was not refused, unless it was known before. -/
theorem exists_request_of_asker
    {relay : Relay}
    {known : Option Endpoint}
    {steps : List Step}
    {target : Endpoint}
    (last : asker relay known steps = some target) :
    known = some target ∨
    ∃ before kind now after, steps = before ++ .take (.request kind) target now :: after ∧
      answeredBusy ((relay.run before).dispatch (.request kind) target now).out = false := by
  induction steps generalizing relay known with
  | nil => exact .inl last
  | cons step steps ih =>
      rcases ih last with here | ⟨before, kind, now, after, rfl, granted⟩
      · unfold askerAfter at here
        split at here
        · rename_i kind sender now
          split at here
          · exact .inl here
          · rename_i granted
            obtain rfl := Option.some.inj here
            exact .inr ⟨[], kind, now, steps, rfl, by simpa using granted⟩
        · exact .inl here
      · exact .inr ⟨step :: before, kind, now, after, rfl, granted⟩

/--
In every run from the start, a reply leads to one datagram: the reply as it
came, to whoever sent the last broadcast that was not answered BUSY; without
such a broadcast it leads to none. Whoever is sent a reply has therefore sent a
broadcast that was not answered BUSY.
-/
theorem reply_goes_to_last_asker
    (config : Config)
    (steps : List Step)
    (kind : Kind)
    (id payload : String)
    (sender : Endpoint)
    (now : Int) :
    (((new config).run steps).dispatch (.reply kind id payload) sender now).out =
      ((asker (new config) none steps).map fun target =>
        ⟨target, .reply kind id payload⟩).toList ∧
    ∀ target, asker (new config) none steps = some target ->
      ∃ before kind now after, steps = before ++ .take (.request kind) target now :: after ∧
        answeredBusy (((new config).run before).dispatch (.request kind) target now).out =
          false := by
  refine ⟨((agrees_new config).run steps).out_reply kind id payload sender now, ?_⟩
  intro target last
  rcases exists_request_of_asker last with impossible | granted
  · simp at impossible
  · exact granted

end Relay
end CameraFleet
