import CameraFleet.Programs.Basic
import CameraFleet.Text.Regex

/-!
# Reading piece by piece

A file is read as far as it is needed for the next line, or for the next piece up
to something else that separates.
-/

namespace CameraFleet
namespace Programs

open Host

/-- A text that was read, and whether it had an end. -/
structure Line where
  /-- The text. -/
  text : Octets := ""
  /-- Whether it had an end. -/
  ended : Bool := true
  deriving Repr, DecidableEq

/-- A file that is read line by line. -/
structure Source where
  /-- Its descriptor. -/
  descriptor : Nat
  /-- What has been read. -/
  bytes : ByteArray := .empty
  /-- How much of that has been used. -/
  place : Nat := 0
  /-- Whether there is no more to read. -/
  isOver : Bool := false

namespace Source

/-- Whether there are bytes that have not been used. -/
def hasBytes (source : Source) : Bool :=
  source.place < source.bytes.size

/-- Read on. -/
def fill (source : Source) (most : Nat) : Act (Except Fault Source) := do
  match ← Act.call (.read source.descriptor most) with
  | .error fault => pure (.error fault)
  | .ok bytes =>
      if bytes.isEmpty then pure (.ok { source with isOver := true })
      else
        let left := source.bytes.extract source.place source.bytes.size
        pure (.ok { source with bytes := left ++ bytes, place := 0 })

/-- Read on until there are bytes, or no more. -/
def ready (source : Source) (most : Nat) : Act (Except Fault Source) :=
  if source.hasBytes || source.isOver then pure (.ok source) else source.fill most

/-- The next line, if there is one; the last number bounds the reading. -/
def line
    (most : Nat)
    (lineEnd : UInt8) :
    Nat -> Source -> Act (Except Fault (Option Line × Source))
  | 0, source => pure (.ok (none, source))
  | turns + 1, source => do
      let size := source.bytes.size
      match source.bytes.findIdx? (· == lineEnd) source.place with
      | some stop =>
          let text := Octets.ofBytes (source.bytes.extract source.place stop)
          pure (.ok (some { text }, { source with place := stop + 1 }))
      | none =>
          if source.isOver then
            let text := Octets.ofBytes (source.bytes.extract source.place size)
            let line : Option Line :=
              if source.hasBytes then some { text, ended := false } else none
            pure (.ok (line, { source with place := size }))
          else
            match ← source.fill most with
            | .error fault => pure (.error fault)
            | .ok source => line most lineEnd turns source

/-- The next piece, if there is one, up to a match; the last number bounds the reading. -/
def piece
    (most : Nat)
    (separator : Regex) :
    Nat -> Source -> Act (Except Fault (Option Octets × Source))
  | 0, source => pure (.ok (none, source))
  | turns + 1, source => do
      let size := source.bytes.size
      let text := Octets.ofBytes (source.bytes.extract source.place size)
      let subject : Regex.Subject := { chars := text.toList.toArray }
      let found := (separator.search? subject 0).filter fun found =>
        found.start < found.stop && (source.isOver || found.stop < subject.chars.size)
      match found with
      | some found =>
          let after := { source with place := source.place + found.stop }
          pure (.ok (some (subject.between 0 found.start), after))
      | none =>
          if source.isOver then
            pure (.ok (if source.hasBytes then some text else none, { source with place := size }))
          else
            match ← source.fill most with
            | .error fault => pure (.error fault)
            | .ok source => piece most separator turns source

/-- Go over some bytes of one kind; the last number bounds the reading. -/
def skip
    (most : Nat)
    (byte : UInt8) : Nat -> Source -> Act (Except Fault Source)
  | 0, source => pure (.ok source)
  | turns + 1, source => do
      if source.hasBytes then
        if source.bytes.get! source.place == byte then
          skip most byte turns { source with place := source.place + 1 }
        else pure (.ok source)
      else if source.isOver then pure (.ok source)
      else
        match ← source.fill most with
        | .error fault => pure (.error fault)
        | .ok source => skip most byte turns source

end Source
end Programs
end CameraFleet
