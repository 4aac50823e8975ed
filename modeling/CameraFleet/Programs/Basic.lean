import CameraFleet.Host.Act
import CameraFleet.Text.Quoted

/-!
# Programs

A program is started with a name, arguments and an environment, and what it does
is an act that ends with a status. It reads from descriptor 0, writes to
descriptor 1, and complains on descriptor 2.
-/

namespace CameraFleet
namespace Programs

open Host

/-- What a program is started with. -/
structure Launch where
  /-- The name by which it was called. -/
  name : Octets
  /-- The arguments. -/
  args : List Octets := []
  /-- The environment: names and values. -/
  environment : List (Octets × Octets) := []

/-- What a program does with what it is started with. -/
abbrev Program := Launch -> Act Nat

/-- Become the program at a path; the answer is the reason why this is not possible. -/
abbrev Starter := Octets -> Launch -> Act Fault

/-- More turns than a loop takes before the machine runs out of time. -/
def manyTurns : Nat := 1000000000

/-- The most bytes that a program reads at once. -/
def block : Nat := 65536

/-- The bytes that collect before a program writes them. -/
def bufferSize : Nat := 4096

/-- The hint at the end of a complaint about arguments. -/
def hint (name : Octets) : Octets :=
  s!"Try '{name} --help' for more information.\n"

/-- Complain about something. -/
def warn (name text : Octets) : Act Unit :=
  Act.complain s!"{name}: {text}\n"

/-- Complain about something and fail with a status. -/
def fail
    (name text : Octets)
    (status : Nat) : Act Nat := do
  warn name text
  pure status

/-- Complain about the arguments and fail with a status. -/
def misuse
    (name text : Octets)
    (status : Nat) : Act Nat := do
  Act.complain (s!"{name}: {text}\n" ++ hint name)
  pure status

/-- Write bytes; none if that fails, in which case there has been a complaint. -/
def emit
    (name : Octets)
    (bytes : ByteArray) : Act Bool := do
  if bytes.isEmpty then pure true
  else
    match ← Act.call (.write 1 bytes) with
    | .ok () => pure true
    | .error fault => do
        warn name s!"write error: {fault.text}"
        pure false

/-- Write a text and end with a status, or fail because it cannot be written. -/
def printing
    (name text : Octets)
    (status : Nat) : Act Nat := do
  if ← emit name (Octets.toBytes text) then pure status else pure 1

/-- Read on to the end, after what has been read. -/
def readOn (descriptor : Nat) : Nat -> ByteArray -> Act (Except Fault ByteArray)
  | 0, sofar => pure (.ok sofar)
  | turns + 1, sofar => do
      match ← Act.call (.read descriptor block) with
      | .error fault => pure (.error fault)
      | .ok bytes =>
          if bytes.isEmpty then pure (.ok sofar) else readOn descriptor turns (sofar ++ bytes)

/-- Everything that can be read from a descriptor. -/
def readAll (descriptor : Nat) : Act (Except Fault ByteArray) :=
  readOn descriptor manyTurns .empty

/-- Something that is fed with bytes and gives bytes; its state may say that it has had enough. -/
structure Feeder (σ : Type) where
  /-- Take some bytes: the state after them, and what is to be written. -/
  feed : σ -> ByteArray -> σ × ByteArray
  /-- Whether the rest does not matter. -/
  enough : σ -> Bool := fun _ => false

/--
Feed something with all that can be read from a descriptor, with what has not
been written yet. The result is the state at the end and what is still to be
written; none if writing failed.
-/
def Feeder.run
    (feeder : Feeder σ)
    (name : Octets)
    (descriptor : Nat) :
    Nat -> σ -> ByteArray -> Act (Except (Option Fault) (σ × ByteArray))
  | 0, state, pending => pure (.ok (state, pending))
  | turns + 1, state, pending => do
      if feeder.enough state then pure (.ok (state, pending))
      else
        match ← Act.call (.read descriptor block) with
        | .error fault => do
            let _ ← emit name pending
            pure (.error (some fault))
        | .ok bytes =>
            if bytes.isEmpty then pure (.ok (state, pending))
            else
              let (state, more) := feeder.feed state bytes
              let pending := pending ++ more
              if pending.size < bufferSize then feeder.run name descriptor turns state pending
              else if ← emit name pending then feeder.run name descriptor turns state .empty
              else pure (.error none)

/-- A number without a sign, if a text is one. -/
def natural? (text : Octets) : Option Nat :=
  if !text.isEmpty && text.all Char.isDigit then text.toNat? else none

/-- A number in decimal digits, perhaps with a sign. -/
def integer? (text : Octets) : Option Int :=
  match text.toList with
  | '-' :: digits => (natural? (String.ofList digits)).map fun n => -(n : Int)
  | '+' :: digits => (natural? (String.ofList digits)).map fun n => (n : Int)
  | _ => (natural? text).map fun n => (n : Int)

/-- The lines of some bytes, each without its end, and whether the last one had an end. -/
def linesOf (text : Octets) : List Octets × Bool :=
  let parts := text.splitOn "\n"
  match parts.getLast? with
  | some "" => (parts.dropLast, true)
  | _ => (parts, false)

end Programs
end CameraFleet
