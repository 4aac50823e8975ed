/-!
# Zero padding

Numbers in dates are filled with zeros on the left up to a least width.
-/

namespace CameraFleet
namespace Text

/-- A text filled with zeros on the left to at least `width` characters. -/
def zeroFill (width : Nat) (text : String) : String :=
  String.ofList (List.replicate (width - text.length) '0') ++ text

/-- A number in decimal, with at least `width` digits. -/
def padded (width n : Nat) : String :=
  zeroFill width (toString n)

end Text
end CameraFleet
