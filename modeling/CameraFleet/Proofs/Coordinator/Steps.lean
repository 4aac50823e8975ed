import CameraFleet.Proofs.Relay.Run
import CameraFleet.Relay.Coordinator

/-!
# Inputs of a coordinator

A coordinator receives datagrams, its timer goes off, and it is told to tick. To
its relay these are steps: at most one message is taken, and it is the one that
the datagram holds.
-/

namespace CameraFleet
namespace Relay
namespace Coordinator

/-- Something that reaches a coordinator. -/
inductive Input
  /-- A datagram. -/
  | receive (bytes : Wire.Bytes) (sender : Endpoint) (now : Int)
  /-- The timer is due. -/
  | fire (now : Int)
  /-- A tick on demand. -/
  | tick (now : Int)

/-- When an input comes. -/
def Input.time : Input -> Int
  | .receive _ _ now => now
  | .fire now => now
  | .tick now => now

/-- What an input leads to. -/
def take (coordinator : Coordinator) : Input -> Result
  | .receive bytes sender now => coordinator.receive bytes sender now
  | .fire now => coordinator.fire now
  | .tick now => coordinator.tick now

/-- The coordinator after inputs. -/
def after (coordinator : Coordinator) : List Input -> Coordinator
  | [] => coordinator
  | input :: inputs => (coordinator.take input).coordinator.after inputs

/-- Inputs may be taken in two parts. -/
theorem after_append (coordinator : Coordinator) (early late : List Input) :
    coordinator.after (early ++ late) = (coordinator.after early).after late := by
  induction early generalizing coordinator with
  | nil => rfl
  | cons input inputs ih => exact ih (coordinator.take input).coordinator

/-! ## What a step leaves alone -/

/-- Setting the timer anew changes nothing but timers, -/
theorem schedule_relay (coordinator : Coordinator) (now : Int) :
    (coordinator.schedule now).relay = coordinator.relay ∧
    (coordinator.schedule now).running = coordinator.running ∧
    (coordinator.schedule now).config = coordinator.config ∧
    (coordinator.schedule now).lastSweepAt = coordinator.lastSweepAt := by
  unfold schedule
  split <;> simp [setTimer]

/-- and so does hastening it. -/
theorem hasten_relay (coordinator : Coordinator) (now : Int) :
    (coordinator.hasten now).relay = coordinator.relay ∧
    (coordinator.hasten now).running = coordinator.running ∧
    (coordinator.hasten now).config = coordinator.config ∧
    (coordinator.hasten now).lastSweepAt = coordinator.lastSweepAt := by
  unfold hasten
  split
  · exact schedule_relay coordinator now
  · exact ⟨rfl, rfl, rfl, rfl⟩

/-- A tick sends nothing. -/
theorem out_tick (coordinator : Coordinator) (now : Int) :
    (coordinator.tick now).out = [] := by
  unfold tick
  split
  · dsimp only
    split <;> rfl
  · rfl

/-- A datagram that holds a message is a step of the relay, which says what is sent and logged. -/
theorem receive_of_ok
    {coordinator : Coordinator}
    (running : coordinator.running = true)
    {bytes : Wire.Bytes}
    {message : Wire.Message}
    (received : Wire.receive bytes coordinator.config.maxMessageBytes = .ok message)
    (sender : Endpoint)
    (now : Int) :
    (coordinator.receive bytes sender now).coordinator.relay =
      coordinator.relay.advance (.take message sender now) ∧
    (coordinator.receive bytes sender now).out =
      (coordinator.relay.dispatch message sender now).out ∧
    (coordinator.receive bytes sender now).events =
      (coordinator.relay.dispatch message sender now).events := by
  simp only [Coordinator.receive, running, if_true, received]
  exact ⟨(hasten_relay { coordinator with
    relay := (coordinator.relay.dispatch message sender now).relay } now).1, rfl, rfl⟩

/-- Only a coordinator that runs and reads a message sends something. -/
theorem exists_message_of_out
    {coordinator : Coordinator}
    {bytes : Wire.Bytes}
    {sender : Endpoint}
    {now : Int}
    {out : Outbound}
    (sent : out ∈ (coordinator.receive bytes sender now).out) :
    coordinator.running = true ∧
    ∃ message, Wire.receive bytes coordinator.config.maxMessageBytes = .ok message := by
  unfold Coordinator.receive at sent
  split at sent
  · rename_i running
    refine ⟨running, ?_⟩
    split at sent
    · simp at sent
    · simp at sent
    · exact ⟨_, ‹_›⟩
  · simp at sent

/-- What an input does to the relay: steps at its time that take what the input holds, or
nothing. -/
theorem exists_steps_take (coordinator : Coordinator) (input : Input) :
    (coordinator.take input).coordinator.running = coordinator.running ∧
    (coordinator.take input).coordinator.config = coordinator.config ∧
    ∃ steps, (coordinator.take input).coordinator.relay = coordinator.relay.run steps ∧
      (∀ step ∈ steps, step.time = input.time) ∧
      ∀ message sender now, .take message sender now ∈ steps ->
        ∃ bytes, input = .receive bytes sender now ∧
          Wire.receive bytes coordinator.config.maxMessageBytes = .ok message := by
  have ticks (now : Int) : (coordinator.tick now).coordinator.running = coordinator.running ∧
      (coordinator.tick now).coordinator.config = coordinator.config ∧
      ∃ steps, (coordinator.tick now).coordinator.relay = coordinator.relay.run steps ∧
        (∀ step ∈ steps, step.time = now) ∧
        ∀ message sender now, .take message sender now ∉ steps := by
    simp only [Coordinator.tick]
    split
    · split
      · exact ⟨rfl, rfl, [.expire now, .sweep now], rfl, by simp [Step.time], by simp⟩
      · exact ⟨rfl, rfl, [.expire now], rfl, by simp [Step.time], by simp⟩
    · exact ⟨rfl, rfl, [], rfl, by simp, by simp⟩
  cases input with
  | tick now =>
      obtain ⟨running, config, steps, relay, times, none⟩ := ticks now
      exact ⟨running, config, steps, relay, times, fun message sender now member =>
        absurd member (none message sender now)⟩
  | fire now =>
      obtain ⟨running, config, steps, relay, times, none⟩ := ticks now
      obtain ⟨relay', running', config', _⟩ :=
        schedule_relay (coordinator.tick now).coordinator now
      exact ⟨running'.trans running, config'.trans config, steps, relay'.trans relay, times,
        fun message sender now member => absurd member (none message sender now)⟩
  | receive bytes sender now =>
      simp only [Coordinator.take, Coordinator.receive]
      split
      · split
        · exact ⟨rfl, rfl, [], rfl, by simp, by simp⟩
        · exact ⟨rfl, rfl, [], rfl, by simp, by simp⟩
        · rename_i message received
          obtain ⟨relay, running, config, _⟩ := hasten_relay
            { coordinator with relay := (coordinator.relay.dispatch message sender now).relay } now
          refine ⟨running, config, [.take message sender now], relay,
            by simp [Step.time, Input.time], ?_⟩
          intro other from' later member
          obtain ⟨rfl, rfl, rfl⟩ : other = message ∧ from' = sender ∧ later = now := by
            simpa using member
          exact ⟨bytes, rfl, received⟩
      · exact ⟨rfl, rfl, [], rfl, by simp, by simp⟩

end Coordinator
end Relay
end CameraFleet
