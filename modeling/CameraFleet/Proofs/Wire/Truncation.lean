import CameraFleet.Wire.Datagram

/-!
# What is kept of a text that is cut

A cut text is the longest initial part that fits: any other initial part that
fits is an initial part of it. A datagram is such a part of its message, and a
line break.
-/

namespace CameraFleet
namespace Utf8

/-- The longest initial part of a text, in whole characters, of at most `budget` bytes. -/
structure LongestFitting (part text : List Char) (budget : Nat) : Prop where
  /-- It is an initial part. -/
  initial : part <+: text
  /-- It fits. -/
  fits : size part ≤ budget
  /-- No initial part that fits is longer. -/
  longest : ∀ other, other <+: text -> size other ≤ budget -> other <+: part

/-- Whatever initial part fits is kept. -/
theorem isPrefix_fit
    {other text : List Char}
    {budget : Nat}
    (initial : other <+: text)
    (fits : size other ≤ budget) :
    other <+: fit budget text := by
  induction text generalizing other budget with
  | nil => simpa using initial
  | cons c rest ih =>
      cases other with
      | nil => exact List.nil_prefix
      | cons d other =>
          obtain ⟨rfl, below⟩ := List.cons_prefix_cons.mp initial
          rw [size_cons] at fits
          rw [fit_cons, if_pos (by omega)]
          exact List.cons_prefix_cons.mpr ⟨rfl, ih below (by omega)⟩

theorem longestFitting_fit (budget : Nat) (text : List Char) :
    LongestFitting (fit budget text) text budget :=
  ⟨fit_isPrefix budget text, size_fit_le budget text, fun _ => isPrefix_fit⟩

/-- There is one longest initial part that fits. -/
theorem LongestFitting.eq
    {part other text : List Char}
    {budget : Nat}
    (longest : LongestFitting part text budget)
    (longest' : LongestFitting other text budget) :
    part = other := by
  have into := longest'.longest part longest.initial longest.fits
  have back := longest.longest other longest'.initial longest'.fits
  exact into.eq_of_length (Nat.le_antisymm into.length_le back.length_le)

/-- A beginning that fits is kept, and the rest has what it leaves of the budget. -/
theorem fit_append
    {budget : Nat}
    {head : List Char}
    (fits : size head ≤ budget)
    (tail : List Char) :
    fit budget (head ++ tail) = head ++ fit (budget - size head) tail := by
  induction head generalizing budget with
  | nil => simp
  | cons c head ih =>
      rw [size_cons] at fits
      rw [List.cons_append, fit_cons, if_pos (by omega), ih (by omega), size_cons, Nat.sub_sub]
      rfl

end Utf8

namespace Wire

open Utf8

/-- What a datagram keeps of its message. -/
def keptText (message : Message) (maxBytes : Int) : List Char :=
  fit (maxBytes - 2).toNat message.text.toList

/-- A datagram is the part of the text that fits, and a line break, -/
theorem encode_eq (message : Message) (maxBytes : Int) :
    encode message maxBytes = Utf8.encode (keptText message maxBytes ++ ['\n']) := by
  simp [encode, encodedText, ofString, cut_eq, keptText]

theorem size_keptText_le (message : Message) (maxBytes : Int) :
    size (keptText message maxBytes) ≤ (maxBytes - 2).toNat :=
  size_fit_le _ _

/-- so that its length is known. -/
theorem length_encode_message (message : Message) (maxBytes : Int) :
    (encode message maxBytes).length = size (keptText message maxBytes) + 1 := by
  rw [encode_eq, length_encode, size_append]
  rfl

/--
A text that is cut keeps the longest initial part that fits, whatever the
budget. So a datagram leaves a byte of the buffer free; it is the UTF-8 form of
a text that ends with a line break, and before this stands the longest initial
part of the message that fits in two bytes less than the buffer.
-/
theorem encode_longest
    (message : Message)
    (maxBytes : Int)
    (room : 2 ≤ maxBytes) :
    (∀ (text : String) (budget : Nat),
      LongestFitting (cut text budget).toList text.toList budget) ∧
    ((encode message maxBytes).length : Int) ≤ maxBytes - 1 ∧
    ∃ part, encode message maxBytes = Utf8.encode (part ++ ['\n']) ∧
      Utf8.decode (encode message maxBytes) = part ++ ['\n'] ∧
      LongestFitting part message.text.toList (maxBytes - 2).toNat := by
  refine ⟨fun text budget => ?_, ?_, keptText message maxBytes, encode_eq message maxBytes, ?_,
    longestFitting_fit _ _⟩
  · simpa [cut_eq] using longestFitting_fit budget text.toList
  · have := size_keptText_le message maxBytes
    rw [length_encode_message]
    omega
  · rw [encode_eq, decode_encode]

/-- A reply whose payload is cut in the middle of a character. -/
theorem encode_longest_cut :
    (2 : Int) ≤ 17 ∧
    ((encode (.reply .listing "a" "é") 17).length : Int) ≤ 17 - 1 :=
  ⟨by decide, (encode_longest (.reply .listing "a" "é") 17 (by decide)).2.1⟩

end Wire
end CameraFleet
