import CameraFleet.Text.Utf8

/-!
# The longest part of a text that fits

A text is cut to a number of bytes between two characters, never inside one. The
place of the cut is found in the bytes: from the first byte that is too many it
goes back as long as the byte there continues a character. `Utf8.cut_eq` says
that what is kept is the longest initial part that fits.
-/

namespace CameraFleet
namespace Utf8

/-- The longest initial part of `text`, in whole characters, of at most `budget` bytes. -/
def fit : Nat -> List Char -> List Char
  | _, [] => []
  | budget, c :: rest =>
      if width c ≤ budget then c :: fit (budget - width c) rest else []

@[simp] theorem fit_nil (budget : Nat) : fit budget [] = [] := by
  cases budget <;> rfl

theorem fit_cons (budget : Nat) (c : Char) (rest : List Char) :
    fit budget (c :: rest) =
      if width c ≤ budget then c :: fit (budget - width c) rest else [] := by
  cases budget <;> rfl

/-- What is kept fits. -/
theorem size_fit_le (budget : Nat) (text : List Char) :
    size (fit budget text) ≤ budget := by
  induction text generalizing budget with
  | nil => simp
  | cons c rest ih =>
      rw [fit_cons]
      split
      · have := ih (budget - width c)
        simp only [size_cons]
        omega
      · simp

/-- What is kept is an initial part. -/
theorem fit_isPrefix (budget : Nat) (text : List Char) :
    fit budget text <+: text := by
  induction text generalizing budget with
  | nil => simp
  | cons c rest ih =>
      rw [fit_cons]
      split
      · simpa using ih (budget - width c)
      · simp

/-- A text that fits is kept whole. -/
theorem fit_of_size_le
    {budget : Nat}
    {text : List Char}
    (fits : size text ≤ budget) :
    fit budget text = text := by
  induction text generalizing budget with
  | nil => simp
  | cons c rest ih =>
      simp only [size_cons] at fits
      rw [fit_cons, if_pos (by omega), ih (by omega)]

/-- Each text that does not fit goes on, after what is kept, with a character that is too wide. -/
theorem exists_rest_of_lt_size
    {budget : Nat}
    {text : List Char}
    (exceeds : budget < size text) :
    ∃ c rest, text = fit budget text ++ c :: rest ∧ budget < size (fit budget text) + width c := by
  induction text generalizing budget with
  | nil => simp at exceeds
  | cons c text ih =>
      rw [size_cons] at exceeds
      rw [fit_cons]
      split
      · obtain ⟨d, rest, parts, wide⟩ := @ih (budget - width c) (by omega)
        refine ⟨d, rest, by rw [List.cons_append, ← parts], ?_⟩
        rw [size_cons]
        omega
      · refine ⟨c, text, rfl, ?_⟩
        rw [size_nil]
        omega

/-! ## Cutting between bytes -/

/-- Whether a byte continues a character that an earlier byte begins. -/
def continues (byte : UInt8) : Bool :=
  byte &&& 0xC0 == 0x80

/-- The last place, from a given one back, at which the byte does not continue a character. -/
def backOff (bytes : List UInt8) : Nat -> Nat
  | 0 => 0
  | place + 1 =>
      if bytes[place + 1]?.any continues then backOff bytes place else place + 1

/-- A string cut to at most `budget` bytes; a negative budget keeps nothing. -/
def cut (text : String) (budget : Int) : String :=
  let bytes := ofString text
  if (bytes.length : Int) ≤ budget then text
  else toString (bytes.take (backOff bytes budget.toNat))

theorem continues_continuation (bits : Nat) : continues (continuation bits) = true := by
  have all : ∀ n : Fin 64, continues (UInt8.ofNat (0x80 + n.val)) = true := by decide
  exact all ⟨bits % 64, Nat.mod_lt _ (by decide)⟩

theorem continues_one (n : Nat) (small : n < 0x80) :
    continues (UInt8.ofNat n) = false := by
  have all : ∀ n : Fin 0x80, continues (UInt8.ofNat n.val) = false := by decide
  exact all ⟨n, small⟩

theorem continues_lead (n : Nat) (small : n < 0x40) :
    continues (UInt8.ofNat (0xC0 + n)) = false := by
  have all : ∀ n : Fin 0x40, continues (UInt8.ofNat (0xC0 + n.val)) = false := by decide
  exact all ⟨n, small⟩

/-- The first byte of a character continues none, and each other one does. -/
theorem encodeChar_eq_cons (c : Char) :
    ∃ lead others, encodeChar c = lead :: others ∧ continues lead = false ∧
      ∀ byte ∈ others, continues byte = true := by
  have bound : c.toNat < 0x110000 := by
    have valid : c.toNat < 0xD800 ∨ (0xDFFF < c.toNat ∧ c.toNat < 0x110000) := c.valid
    omega
  unfold encodeChar
  generalize c.toNat = n at bound
  simp only
  split
  · rename_i small
    exact ⟨_, _, rfl, continues_one n small, by simp⟩
  split
  · exact ⟨_, _, rfl, continues_lead (n / 64) (by omega), by simp [continues_continuation]⟩
  split
  · have lead : 0xE0 + n / 4096 = 0xC0 + (0x20 + n / 4096) := by omega
    exact ⟨_, _, rfl, lead ▸ continues_lead (0x20 + n / 4096) (by omega),
      by simp [continues_continuation]⟩
  · have lead : 0xF0 + n / 262144 = 0xC0 + (0x30 + n / 262144) := by omega
    exact ⟨_, _, rfl, lead ▸ continues_lead (0x30 + n / 262144) (by omega),
      by simp [continues_continuation]⟩

/-- From inside a character the way back ends where it begins. -/
theorem backOff_inside
    (before after : List UInt8)
    (c : Char)
    {offset : Nat}
    (inside : offset < width c) :
    backOff (before ++ encodeChar c ++ after) (before.length + offset) = before.length := by
  obtain ⟨lead, others, parts, leads, continue'⟩ := encodeChar_eq_cons c
  have wide : others.length + 1 = width c := by
    rw [← length_encodeChar, parts, List.length_cons]
  rw [parts]
  induction offset with
  | zero =>
      cases start : before.length with
      | zero => rfl
      | succ place =>
          have byte : (before ++ lead :: others ++ after)[place + 1]? = some lead := by
            rw [← start]
            simp
          rw [Nat.add_zero, backOff, byte]
          simp [leads]
  | succ offset ih =>
      have byte : (before ++ lead :: others ++ after)[before.length + offset + 1]? =
          others[offset]? := by
        rw [List.append_assoc, List.getElem?_append_right (by omega)]
        have place : before.length + offset + 1 - before.length = offset + 1 := by omega
        rw [place, List.cons_append, List.getElem?_cons_succ,
          List.getElem?_append_left (by omega)]
      have continued : others[offset]?.any continues = true := by
        rw [List.getElem?_eq_getElem (by omega)]
        exact continue' _ (List.getElem_mem _)
      rw [← Nat.add_assoc, backOff, byte, if_pos continued]
      exact ih (by omega)

/-- The way back from a place in a text ends after the longest initial part that fits. -/
theorem backOff_encode
    {budget : Nat}
    {text : List Char}
    (exceeds : budget < size text) :
    backOff (encode text) budget = size (fit budget text) := by
  obtain ⟨c, rest, parts, wide⟩ := exists_rest_of_lt_size exceeds
  have fits := size_fit_le budget text
  have bytes : encode text = encode (fit budget text) ++ encodeChar c ++ encode rest := by
    rw [List.append_assoc, ← encode_cons, ← encode_append, ← parts]
  have inside : budget - size (fit budget text) < width c := by omega
  have found := backOff_inside (encode (fit budget text)) (encode rest) c inside
  rw [← bytes, length_encode] at found
  rwa [Nat.add_sub_cancel' fits] at found

/-- What is kept of a string is the longest initial part that fits. -/
theorem cut_eq (text : String) (budget : Int) :
    cut text budget = String.ofList (fit budget.toNat text.toList) := by
  have length : (ofString text).length = size text.toList := length_encode _
  unfold cut
  simp only [length]
  split
  · rename_i fits
    rw [fit_of_size_le (by omega), String.ofList_toList]
  · rename_i exceeds
    by_cases short : budget.toNat < size text.toList
    · obtain ⟨rest, parts⟩ := fit_isPrefix budget.toNat text.toList
      have bytes : ofString text = encode (fit budget.toNat text.toList) ++ encode rest := by
        rw [← encode_append, parts, ofString]
      rw [ofString, backOff_encode short, ← ofString, bytes,
        List.take_left' (length_encode _), toString, decode_encode]
    · -- Then the budget is negative and the text is empty.
      have zero : budget.toNat = 0 := by omega
      have empty : text.toList = [] := by
        cases chars : text.toList with
        | nil => rfl
        | cons c rest =>
            have := width_pos c
            rw [chars, size_cons] at short
            omega
      rw [zero, empty]
      rfl

end Utf8
end CameraFleet
