import CameraFleet.Text.Utf8

/-!
# Device ids

A device id is one field of a datagram: it is not empty, it is short, and it
holds neither a colon nor a line break nor a zero.
-/

namespace CameraFleet
namespace Device

/-- The most bytes of a device id. -/
def maxIdBytes : Nat := 31

/-- Characters that cannot stand in a device id. -/
def delimits (c : Char) : Bool :=
  c == ':' || c == '\n' || c == '\x00'

/-- Whether a text can name a device. -/
def ValidId (id : String) : Prop :=
  id ≠ "" ∧ Utf8.size id.toList ≤ maxIdBytes ∧ ∀ c ∈ id.toList, delimits c = false

instance : DecidablePred ValidId := fun id =>
  have : Decidable (∀ c ∈ id.toList, delimits c = false) :=
    List.decidableBAll (delimits · = false) id.toList
  inferInstanceAs (Decidable (id ≠ "" ∧ Utf8.size id.toList ≤ maxIdBytes ∧ _))

end Device
end CameraFleet
