import CameraFleet.Host.Fault

/-!
# Limits

A process may use so much of each resource. There is a limit that counts, and a
bound up to which the process may raise it by itself; the bound can only be
lowered.
-/

namespace CameraFleet
namespace Host

/-- What a process may use up to a limit. -/
inductive Resource
  /-- Seconds of work. -/
  | time
  /-- Bytes of a file. -/
  | fileSize
  /-- Bytes of data. -/
  | data
  /-- Bytes of the stack. -/
  | stack
  /-- Bytes of what is kept of a process that breaks down. -/
  | core
  /-- Bytes that stay in memory. -/
  | resident
  /-- Bytes that must stay in memory. -/
  | pinned
  /-- Processes. -/
  | processes
  /-- Open files. -/
  | openFiles
  /-- Bytes of memory. -/
  | memory
  /-- Locks on files. -/
  | locks
  /-- The urgency. -/
  | urgency
  /-- Signals that wait. -/
  | signals
  /-- Bytes of messages that wait. -/
  | messages
  /-- The priority. -/
  | priority
  deriving Repr, DecidableEq

/-- How much of a resource may be used; none if there is no limit. -/
structure Limit where
  /-- The limit that counts. -/
  soft : Option Nat := none
  /-- The bound for it. -/
  hard : Option Nat := none
  deriving Repr, DecidableEq

namespace Limit

/-- Whether an amount, perhaps without end, is within another one. -/
def isWithin : Option Nat -> Option Nat -> Bool
  | _, none => true
  | none, some _ => false
  | some amount, some bound => amount ≤ bound

/-- The limits with which processes start. -/
def usual : Resource -> Limit
  | .stack => { soft := some 8388608 }
  | .core => { soft := some 0 }
  | .pinned => { soft := some 8388608, hard := some 8388608 }
  | .processes | .signals => { soft := some 128619, hard := some 128619 }
  | .openFiles => { soft := some 20000, hard := some 20000 }
  | .urgency | .priority => { soft := some 0, hard := some 0 }
  | .messages => { soft := some 819200, hard := some 819200 }
  | _ => {}

/-- What keeps a limit from being replaced by another one, if anything. -/
def refusal? (old new : Limit) : Option Fault :=
  if !isWithin new.soft new.hard then some .invalid
  else if !isWithin new.hard old.hard then some .notPermitted
  else none

end Limit
end Host
end CameraFleet
