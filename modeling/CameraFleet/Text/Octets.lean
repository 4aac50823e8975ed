import CameraFleet.Text.Utf8

/-!
# Octets

Programs deal in bytes that need not be well-formed UTF-8. A text of octets
holds one character below 256 for each byte, so that bytes can be compared with
and written as ordinary characters.
-/

namespace CameraFleet

/-- A text each of whose characters stands for one byte. -/
abbrev Octets := String

namespace Octets

/-- Some bytes as a text of octets. -/
def ofBytes (bytes : ByteArray) : Octets :=
  bytes.foldl (fun text byte => text.push (Char.ofNat byte.toNat)) ""

/-- The bytes of a text of octets. -/
def toBytes (octets : Octets) : ByteArray :=
  octets.foldl (fun bytes c => bytes.push (UInt8.ofNat c.toNat)) .empty

/-- The UTF-8 bytes of a text. -/
def ofText (text : String) : Octets :=
  ofBytes text.toUTF8

/-- The text whose UTF-8 bytes these are. -/
def toText (octets : Octets) : String :=
  Utf8.toString (octets.toList.map fun c => UInt8.ofNat c.toNat)

end Octets
end CameraFleet
