import CameraFleet.Session

/-!
# The tally

The relay's view of the broadcasts so far: the session that collects, if any,
the last requester, and how many sessions there have been.
-/

namespace CameraFleet

/-- What happens to a broadcast that comes while a session collects. -/
inductive Policy
  /-- The broadcast is refused. -/
  | reject
  /-- The session is given up. -/
  | replace
  deriving Repr, DecidableEq, Inhabited

namespace Policy

/-- The written name of a policy. -/
def name : Policy -> String
  | .reject => "reject"
  | .replace => "replace"

end Policy

/-- The broadcasts so far. -/
structure Tally where
  /-- How long a session collects, in milliseconds. -/
  responseTimeout : Int
  /-- What happens to a broadcast in the middle of a session. -/
  policy : Policy
  /-- The session that collects. -/
  current : Option Session := none
  /-- Who asked last without being refused. -/
  lastRequester : Option Endpoint := none
  /-- The number of sessions begun. -/
  sequence : Nat := 0
  deriving Repr, DecidableEq

namespace Tally

/-- Whether a session collects. -/
def collecting (tally : Tally) : Bool :=
  tally.current.isSome

/-- Close the session if its deadline has come; the answer is the session that timed out. -/
def expire
    (tally : Tally)
    (now : Int) : Tally × Option Session :=
  match tally.current with
  | some session =>
      if now < session.deadline then (tally, none)
      else ({ tally with current := none }, some session)
  | none => (tally, none)

/-- What a broadcast that was accepted did. -/
structure Opening where
  /-- The session of the broadcast. -/
  session : Session
  /-- A session that was given up for it. -/
  replaced : Option Session
  /-- A session that timed out just before. -/
  expired : Option Session
  /-- Whether there was nobody to wait for. -/
  completed : Bool
  deriving Repr, DecidableEq

/-- The tally after a session for these targets has begun, whatever collected before. -/
def openSession
    (tally : Tally)
    (kind : Kind)
    (requester : Endpoint)
    (targets : List String)
    (now : Int) : Tally × Session :=
  let number := tally.sequence + 1
  let session := Session.new number kind requester targets now tally.responseTimeout
  ({ tally with
      current := if targets.isEmpty then none else some session
      lastRequester := some requester
      sequence := number },
    session)

/--
Begin a session for a broadcast to `targets`. A broadcast that is refused gets
the session that collects.
-/
def begin
    (tally : Tally)
    (kind : Kind)
    (requester : Endpoint)
    (targets : List String)
    (now : Int) : Tally × Except Session Opening :=
  let (tally, expired) := tally.expire now
  match tally.current, tally.policy with
  | some active, .reject => (tally, .error active)
  | replaced, _ =>
      let (tally, session) := tally.openSession kind requester targets now
      (tally, .ok { session, replaced, expired, completed := targets.isEmpty })

/-- What became of a reply. -/
structure Receipt where
  /-- Where the reply goes; nowhere if nobody has asked. -/
  forwardTo : Option Endpoint
  /-- Whether the reply was tallied. -/
  tallied : Bool
  /-- Whether it came when no session collected. -/
  late : Bool
  /-- The session that it completed. -/
  completed : Option Session
  /-- A session that timed out just before. -/
  expired : Option Session
  deriving Repr, DecidableEq

/-- Take note of a reply of a device. -/
def record
    (tally : Tally)
    (kind : Kind)
    (deviceId : String)
    (now : Int) : Tally × Receipt :=
  let (tally, expired) := tally.expire now
  match tally.current with
  | none =>
      (tally,
        { forwardTo := tally.lastRequester, tallied := false,
          late := tally.lastRequester.isSome, completed := none, expired })
  | some session =>
      let receipt : Receipt :=
        { forwardTo := some session.requester, tallied := false,
          late := false, completed := none, expired }
      if session.Counts kind deviceId then
        let session := session.tally deviceId
        if session.Complete then
          ({ tally with current := none },
            { receipt with tallied := true, completed := some session })
        else
          ({ tally with current := some session }, { receipt with tallied := true })
      else
        (tally, receipt)

end Tally
end CameraFleet
