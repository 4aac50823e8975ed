import CameraFleet.Network
import CameraFleet.Proofs.Coordinator.Sending
import CameraFleet.Proofs.Relay.Apart
import CameraFleet.Proofs.Wire.Asking
import Mathlib.Algebra.Order.Ring.Nat

/-!
# What a step adds to a network

Each datagram on its way, and each command that runs, is charged with the
datagrams that it can still lead to. A step of a node sends some datagrams; what
it sends and what these are charged with is the load of the step. So the number
of datagrams sent and the charge of what is still to be done grow by no more
than the loads.
-/

namespace CameraFleet
namespace Network

open Wire

/-! ## Charges -/

open Classical in
/-- The most datagrams that one can lead to, in a network with a relay at `own` that has room
for some devices: at the relay a broadcast goes to each device, comes back from it and is
forwarded; elsewhere a broadcast is answered, and the answer is perhaps forwarded. -/
noncomputable def charge
    (own : Endpoint)
    (devices : Nat)
    (target : Endpoint)
    (bytes : Bytes) : Nat :=
  if target = own then if Asks bytes then 3 * devices else 1
  else if Asks bytes then 2 else 0

/-- What all that is still to be done is charged with. -/
noncomputable def debt (own : Endpoint) (devices : Nat) (net : Network) : Nat :=
  (net.queue.map fun datagram => charge own devices datagram.target datagram.bytes).sum +
    2 * net.running.length

theorem charge_quiet
    (own : Endpoint)
    (devices : Nat)
    (target : Endpoint)
    {bytes : Bytes}
    (quiet : ¬ Asks bytes) :
    charge own devices target bytes = if target = own then 1 else 0 := by
  simp [charge, quiet]

theorem charge_far_le
    {own target : Endpoint}
    (far : target ≠ own)
    (devices : Nat)
    (bytes : Bytes) :
    charge own devices target bytes ≤ 2 := by
  unfold charge
  rw [if_neg far]
  split <;> omega

/-! ## Orderly networks -/

/-- The datagram that an event sends. -/
def sent? : Event -> Option Datagram
  | .send datagram _ => some datagram
  | _ => none

/-- The datagrams that were sent, as far as they are observed. -/
def sent (net : Network) : List Datagram :=
  net.trace.toList.filterMap fun entry => sent? entry.2

/-- A datagram that does not go from an endpoint to itself. -/
def Proper (own : Endpoint) (datagram : Datagram) : Prop :=
  datagram.source = own -> datagram.target ≠ own

/-- A runner whose commands end at once. -/
def AtOnce : Runner -> Prop
  | .scripted answers => ∀ answer ∈ answers, answer.delay = none
  | .live _ => True

/-- A node that may be at an endpoint: the relay at its own, and all others elsewhere. -/
def Fits (own : Endpoint) (devices : Nat) (here : Endpoint) : Party -> Prop
  | .relay coordinator => here = own ∧ Relay.Apart own devices coordinator.relay
  | .worker _ runner => here ≠ own ∧ AtOnce runner
  | .controller _ => here ≠ own

/-- A network in which nothing goes from the relay to itself. -/
structure Orderly (own : Endpoint) (devices : Nat) (net : Network) : Prop where
  /-- Every node is where it may be. -/
  stations : ∀ (place : Nat) (station : Station), net.stations[place]? = some station ->
    Fits own devices station.here station.party
  /-- What is on its way does not go from the relay to itself. -/
  queue : ∀ datagram ∈ net.queue, Proper own datagram
  /-- The commands that run end at once. -/
  running : ∀ ended ∈ net.running, ended.due = none
  /-- Nothing was sent from the relay to itself. -/
  sent : ∀ datagram ∈ net.sent, Proper own datagram

/-- An orderly network after another one, in which some datagrams were sent under some load. -/
structure Grows
    (own : Endpoint)
    (devices : Nat)
    (before after : Network)
    (count load : Nat) : Prop where
  orderly : Orderly own devices after
  /-- The nodes stay where they are. -/
  here : after.stations.map (·.here) = before.stations.map (·.here)
  /-- What was sent before comes first. -/
  sent : ∃ more, after.sent = before.sent ++ more ∧ more.length = count
  /-- What is on its way was so before, or was sent. -/
  queue : after.queue.length ≤ before.queue.length + count
  /-- What is sent is paid out of the load, and so is what it can lead to. -/
  debt : after.debt own devices + count ≤ before.debt own devices + load

variable {own : Endpoint} {devices : Nat}

/-- Nothing changes. -/
theorem Grows.refl {net : Network} (orderly : Orderly own devices net) :
    Grows own devices net net 0 0 :=
  ⟨orderly, rfl, ⟨[], by simp, rfl⟩, Nat.le_refl _, Nat.le_refl _⟩

/-- Loads add up. -/
theorem Grows.trans
    {first second third : Network}
    {count count' load load' : Nat}
    (grows : Grows own devices first second count load)
    (grows' : Grows own devices second third count' load') :
    Grows own devices first third (count + count') (load + load') := by
  obtain ⟨_, here, ⟨more, sent, length⟩, queue, debt⟩ := grows
  obtain ⟨orderly, here', ⟨more', sent', length'⟩, queue', debt'⟩ := grows'
  refine ⟨orderly, here'.trans here, ⟨more ++ more', ?_, ?_⟩, by omega, by omega⟩
  · rw [sent', sent, List.append_assoc]
  · rw [List.length_append, length, length']

/-- A larger load will do. -/
theorem Grows.mono
    {before after : Network}
    {count load load' : Nat}
    (grows : Grows own devices before after count load)
    (larger : load ≤ load') :
    Grows own devices before after count load' :=
  { grows with debt := grows.debt.trans (by omega) }

/-! ## What is done to a network -/

theorem sent_observe (net : Network) (event : Event) :
    (net.observe event).sent = net.sent ++ (sent? event).toList := by
  simp only [sent, observe, Array.toList_push, List.filterMap_append, List.filterMap_cons,
    List.filterMap_nil]
  cases sent? event <;> rfl

/-- Observing anything but a datagram adds nothing. -/
theorem grows_observe
    {net : Network}
    (orderly : Orderly own devices net)
    {event : Event}
    (quiet : sent? event = none) :
    Grows own devices net (net.observe event) 0 0 := by
  have same : (net.observe event).sent = net.sent := by simp [sent_observe, quiet]
  exact ⟨⟨orderly.stations, orderly.queue, orderly.running, same ▸ orderly.sent⟩, rfl,
    ⟨[], by rw [same, List.append_nil], rfl⟩, Nat.le_refl _, Nat.le_refl _⟩

/-- A log line adds nothing. -/
theorem grows_observeLine
    {net : Network}
    (orderly : Orderly own devices net)
    (name : String)
    (line : Log.Line) :
    Grows own devices net (net.observeLine name line) 0 0 := by
  unfold observeLine
  split
  · exact .refl orderly
  · exact grows_observe orderly rfl

/-- A datagram is one more, and is charged unless it is lost. -/
theorem grows_post
    {net : Network}
    (orderly : Orderly own devices net)
    {datagram : Datagram}
    (proper : Proper own datagram) :
    Grows own devices net (net.post datagram) 1
      (1 + charge own devices datagram.target datagram.bytes) := by
  have told (lost : Bool) : (net.observe (.send datagram lost)).sent = net.sent ++ [datagram] := by
    simp [sent_observe, sent?]
  have fine : ∀ other ∈ net.sent ++ [datagram], Proper own other := by
    intro other member
    rcases List.mem_append.mp member with old | new
    · exact orderly.sent other old
    · exact List.mem_singleton.mp new ▸ proper
  unfold post
  dsimp only
  split
  · refine ⟨⟨orderly.stations, orderly.queue, orderly.running, ?_⟩, rfl, ⟨[datagram], told _, rfl⟩,
      Nat.le_succ _, ?_⟩
    · rw [told]
      exact fine
    · have same (lost : Bool) : (net.observe (.send datagram lost)).debt own devices =
          net.debt own devices := rfl
      rw [same]
      omega
  · refine ⟨⟨orderly.stations, ?_, orderly.running, ?_⟩, rfl, ⟨[datagram], told _, rfl⟩, ?_, ?_⟩
    · intro other member
      rcases List.mem_append.mp member with old | new
      · exact orderly.queue other old
      · exact List.mem_singleton.mp new ▸ proper
    · exact (told _).symm ▸ fine
    · simp [observe]
    · simp only [debt, observe, List.map_append, List.map_cons, List.map_nil, List.sum_append,
        List.sum_cons, List.sum_nil]
      omega

/-- The node at a place, after the node at a place was changed. -/
theorem getElem?_modifyStation
    {net : Network}
    {place other : Nat}
    {change : Station -> Station}
    {after : Station}
    (found : (net.modifyStation place change).stations[other]? = some after) :
    ∃ before, net.stations[other]? = some before ∧
      (place = other ∧ after = change before ∨ after = before) := by
  simp only [modifyStation, List.getElem?_modify] at found
  cases known : net.stations[other]? with
  | none => simp [known] at found
  | some before =>
      refine ⟨before, rfl, ?_⟩
      simp only [known, Option.map_eq_map, Option.map_some, Option.some.injEq] at found
      split at found
      · rename_i same
        exact .inl ⟨same, found.symm⟩
      · exact .inr found.symm

/-- Changing a node where it is adds nothing, if it may be there after it. -/
theorem grows_modifyStation
    {net : Network}
    (orderly : Orderly own devices net)
    (place : Nat)
    (change : Station -> Station)
    (stays : ∀ station, (change station).here = station.here)
    (fits : ∀ station, net.stations[place]? = some station ->
      Fits own devices station.here (change station).party) :
    Grows own devices net (net.modifyStation place change) 0 0 := by
  refine ⟨⟨fun other after found => ?_, orderly.queue, orderly.running, orderly.sent⟩, ?_,
    ⟨[], (List.append_nil _).symm, rfl⟩, Nat.le_refl _, Nat.le_refl _⟩
  · obtain ⟨before, known, ⟨rfl, rfl⟩ | rfl⟩ := getElem?_modifyStation found
    · rw [stays]
      exact fits before known
    · exact orderly.stations other after known
  · refine List.ext_getElem? fun other => ?_
    simp only [modifyStation, List.getElem?_map, List.getElem?_modify]
    cases net.stations[other]? with
    | none => rfl
    | some before => by_cases same : place = other <;> simp [same, stays]

/-- A node may be replaced by another one that may be where it is. -/
theorem grows_setParty
    {net : Network}
    (orderly : Orderly own devices net)
    {place : Nat}
    {here : Endpoint}
    (placed : (net.stations.map (·.here))[place]? = some here)
    {party : Party}
    (fits : Fits own devices here party) :
    Grows own devices net (net.setParty place party) 0 0 := by
  refine grows_modifyStation orderly place ({ · with party }) (fun _ => rfl) fun station found => ?_
  rw [List.getElem?_map, found, Option.map_some, Option.some.injEq] at placed
  exact placed ▸ fits

/-- Releasing a socket adds nothing. -/
theorem grows_release
    {net : Network}
    (orderly : Orderly own devices net)
    (place : Nat)
    (station : Station) :
    Grows own devices net (net.release place station) 0 0 := by
  unfold release
  split
  · exact .refl orderly
  · have closed := grows_modifyStation orderly place ({ · with closed := true })
      (fun _ => rfl) fun before known => orderly.stations place before known
    exact closed.trans (grows_observe closed.orderly rfl)

/-- Actions done one after the other: the datagrams that each of them sends, and its load, add up
as long as the nodes are where they were. -/
theorem grows_foldl
    {α : Type}
    {act : Network -> α -> Network}
    {count load : α -> Nat}
    (actions : List α)
    {net : Network}
    (each : ∀ between, ∀ action ∈ actions, Orderly own devices between ->
      between.stations.map (·.here) = net.stations.map (·.here) ->
      Grows own devices between (act between action) (count action) (load action))
    (orderly : Orderly own devices net) :
    Grows own devices net (actions.foldl act net) (actions.map count).sum
      (actions.map load).sum := by
  induction actions generalizing net with
  | nil => exact .refl orderly
  | cons action actions ih =>
      have first := each net action List.mem_cons_self orderly rfl
      have rest := ih (fun between other member orderly same =>
        each between other (List.mem_cons_of_mem _ member) orderly (same.trans first.here))
        first.orderly
      simpa using first.trans rest

end Network
end CameraFleet
