import CameraFleet.Text.Fitting
import CameraFleet.Wire.Reader

/-!
# Datagrams

A datagram is a message's text and a line break, cut so that it leaves one byte
of the receiver's buffer free. The receiver reads its buffer up to the first
zero byte.
-/

namespace CameraFleet
namespace Wire

/-- The bytes of a datagram. -/
abbrev Bytes := List UInt8

/-- The usual size of a receive buffer, in bytes. -/
def defaultMaxBytes : Nat := 1024

/-- A message's text, cut for a receive buffer of `maxBytes`, with its line break. -/
def encodedText (message : Message) (maxBytes : Int) : String :=
  Utf8.cut message.text (maxBytes - 2) ++ "\n"

/-- A message as a datagram for a receive buffer of `maxBytes`. -/
def encode (message : Message) (maxBytes : Int) : Bytes :=
  Utf8.ofString (encodedText message maxBytes)

/--
The bytes of a datagram before position `stop`. A negative position counts from
the end.
-/
def takeUntil (bytes : Bytes) (stop : Int) : Bytes :=
  if 0 ≤ stop then bytes.take stop.toNat
  else bytes.take (bytes.length + stop).toNat

/-- Where a buffer of `maxBytes` ends: at its first zero byte, one byte is kept free. -/
def readLimit (bytes : Bytes) (maxBytes : Int) : Int :=
  let limit := min (bytes.length : Int) (maxBytes - 1)
  match bytes.findIdx? (· == 0) with
  | some place => if (place : Int) < limit then place else limit
  | none => limit

/-- The text of a datagram, read through a receive buffer of `maxBytes`. -/
def decode (bytes : Bytes) (maxBytes : Int) : String :=
  Utf8.toString (takeUntil bytes (readLimit bytes maxBytes))

/-- Read a message from a datagram. -/
def receive (bytes : Bytes) (maxBytes : Int) : Except Refusal Message :=
  Message.parse (decode bytes maxBytes)

end Wire
end CameraFleet
