import CameraFleet.Broadcast
import CameraFleet.Endpoint

/-!
# Sessions

A session is one broadcast with the tally of its replies. At most one session
collects at a time. It ends when every target has answered, when its deadline
passes, or when another broadcast replaces it.

Every reply goes to a requester, in the order of arrival; only the first reply
of the session's kind from each target is tallied. A reply that comes while no
session collects goes to the last requester.
-/

namespace CameraFleet

/-- One broadcast and the tally of its replies. -/
structure Session where
  /-- The name of the session, of which no two are alike. -/
  id : String
  /-- What was asked for. -/
  kind : Kind
  /-- Who asked. -/
  requester : Endpoint
  /-- When the session began. -/
  startedAt : Int
  /-- When it times out. -/
  deadline : Int
  /-- The number of devices asked. -/
  expectedCount : Nat
  /-- The number of replies tallied. -/
  receivedCount : Nat
  /-- The devices asked. -/
  targets : List String
  /-- The devices whose reply was tallied, in the order of arrival. -/
  responded : List String
  deriving Repr, DecidableEq

namespace Session

/-- The name of the session with a number, begun at a time. -/
def name (startedAt : Int) (number : Nat) : String :=
  s!"session-{startedAt}-{number}"

/-- A new session with a number. -/
def new
    (number : Nat)
    (kind : Kind)
    (requester : Endpoint)
    (targets : List String)
    (now timeout : Int) : Session :=
  { id := name now number
    kind, requester, targets
    startedAt := now
    deadline := now + timeout
    expectedCount := targets.length
    receivedCount := 0
    responded := [] }

/-- Whether a reply of this kind from this device counts. -/
def Counts
    (session : Session)
    (kind : Kind)
    (deviceId : String) : Prop :=
  kind = session.kind ∧ deviceId ∈ session.targets ∧ deviceId ∉ session.responded

instance
    (session : Session)
    (kind : Kind)
    (deviceId : String) : Decidable (session.Counts kind deviceId) := by
  unfold Counts
  infer_instance

/-- The session after a reply that counts. -/
def tally (session : Session) (deviceId : String) : Session :=
  { session with
    responded := session.responded ++ [deviceId]
    receivedCount := session.receivedCount + 1 }

/-- Whether every reply that was expected has been tallied. -/
def Complete (session : Session) : Prop :=
  session.expectedCount ≤ session.receivedCount

instance (session : Session) : Decidable session.Complete := by
  unfold Complete
  infer_instance

/-- The devices that have not answered, in the order in which they were asked. -/
def missing (session : Session) : List String :=
  session.targets.filter (!session.responded.contains ·)

end Session
end CameraFleet
