/-!
# UTF-8 with replacement

Characters are written as one to four bytes. Reading accepts any bytes: each
maximal initial part of an ill-formed sequence becomes one replacement
character, and reading resumes at the byte that broke the sequence. A byte
order mark is an ordinary character.

The reader is a machine that takes one byte at a time, so its recursion is on
the bytes. `Utf8.decode_encode` says that it inverts the writer.
-/

namespace CameraFleet
namespace Utf8

/-- The number of bytes of a character. -/
def width (c : Char) : Nat :=
  if c.toNat < 0x80 then 1
  else if c.toNat < 0x800 then 2
  else if c.toNat < 0x10000 then 3
  else 4

theorem width_pos (c : Char) : 0 < width c := by
  unfold width
  repeat' split
  all_goals decide

/-- A continuation byte, which carries six bits. -/
def continuation (bits : Nat) : UInt8 :=
  UInt8.ofNat (0x80 + bits % 64)

/-- The bytes of a character. -/
def encodeChar (c : Char) : List UInt8 :=
  let n := c.toNat
  if n < 0x80 then
    [UInt8.ofNat n]
  else if n < 0x800 then
    [UInt8.ofNat (0xC0 + n / 64), continuation n]
  else if n < 0x10000 then
    [UInt8.ofNat (0xE0 + n / 4096), continuation (n / 64), continuation n]
  else
    [UInt8.ofNat (0xF0 + n / 262144), continuation (n / 4096),
      continuation (n / 64), continuation n]

@[simp] theorem length_encodeChar (c : Char) :
    (encodeChar c).length = width c := by
  simp only [encodeChar, width]
  repeat' split
  all_goals rfl

/-- The bytes of a text. -/
def encode (text : List Char) : List UInt8 :=
  text.flatMap encodeChar

@[simp] theorem encode_nil : encode [] = [] := rfl

@[simp] theorem encode_cons (c : Char) (text : List Char) :
    encode (c :: text) = encodeChar c ++ encode text := rfl

@[simp] theorem encode_append (left right : List Char) :
    encode (left ++ right) = encode left ++ encode right := by
  simp [encode]

/-- The number of bytes of a text. -/
def size (text : List Char) : Nat :=
  text.foldr (fun c bytes => width c + bytes) 0

@[simp] theorem size_nil : size [] = 0 := rfl

@[simp] theorem size_cons (c : Char) (text : List Char) :
    size (c :: text) = width c + size text := rfl

@[simp] theorem size_append (left right : List Char) :
    size (left ++ right) = size left + size right := by
  induction left with
  | nil => simp
  | cons c left ih => simp [ih, Nat.add_assoc]

@[simp] theorem length_encode (text : List Char) :
    (encode text).length = size text := by
  induction text with
  | nil => rfl
  | cons c text ih => simp [ih]

/-- The character that stands for bytes that cannot be read. -/
def replacement : Char := '\uFFFD'

/-- A sequence that has begun: its value so far, and the bytes it still needs. -/
structure Pending where
  /-- The bits read so far. -/
  bits : Nat
  /-- Bytes needed after the next one. -/
  more : Nat
  /-- The least next byte that continues the sequence. -/
  least : UInt8
  /-- The greatest next byte that continues the sequence. -/
  greatest : UInt8
  deriving Repr, DecidableEq

/-- Where the reader stands: between characters, or inside a sequence. -/
abbrev State := Option Pending

/-- Read a byte between characters: the characters it yields, and the state after it. -/
def first (b : UInt8) : List Char × State :=
  if b < 0x80 then ([Char.ofNat b.toNat], none)
  else if b < 0xC2 then ([replacement], none)
  else if b < 0xE0 then ([], some ⟨b.toNat - 0xC0, 0, 0x80, 0xBF⟩)
  else if b = 0xE0 then ([], some ⟨0, 1, 0xA0, 0xBF⟩)
  else if b = 0xED then ([], some ⟨0xD, 1, 0x80, 0x9F⟩)
  else if b < 0xF0 then ([], some ⟨b.toNat - 0xE0, 1, 0x80, 0xBF⟩)
  else if b = 0xF0 then ([], some ⟨0, 2, 0x90, 0xBF⟩)
  else if b < 0xF4 then ([], some ⟨b.toNat - 0xF0, 2, 0x80, 0xBF⟩)
  else if b = 0xF4 then ([], some ⟨4, 2, 0x80, 0x8F⟩)
  else ([replacement], none)

/-- Read one byte: the characters it yields, and the state after it. -/
def step : State -> UInt8 -> List Char × State
  | none, b => first b
  | some p, b =>
      if p.least ≤ b ∧ b ≤ p.greatest then
        let bits := p.bits * 64 + (b.toNat - 0x80)
        match p.more with
        | 0 => ([Char.ofNat bits], none)
        | more + 1 => ([], some ⟨bits, more, 0x80, 0xBF⟩)
      else
        let (text, state) := first b
        (replacement :: text, state)

/-- What has been read: the text, last character first, and the state. -/
structure Reading where
  /-- The characters read, last one first. -/
  reversed : List Char := []
  /-- The state after them. -/
  state : State := none

/-- Read one more byte. -/
def Reading.push
    (reading : Reading)
    (b : UInt8) : Reading :=
  let (text, state) := step reading.state b
  ⟨text.reverse ++ reading.reversed, state⟩

/-- The text read; an unfinished sequence ends as one replacement. -/
def Reading.text (reading : Reading) : List Char :=
  match reading.state with
  | none => reading.reversed.reverse
  | some _ => (replacement :: reading.reversed).reverse

/-- Read bytes as text. -/
def decode (bytes : List UInt8) : List Char :=
  (bytes.foldl Reading.push {}).text

@[simp] theorem decode_nil : decode [] = [] := rfl

theorem toNat_continuation (bits : Nat) :
    (continuation bits).toNat = 0x80 + bits % 64 := by
  simp [continuation, UInt8.toNat_ofNat']
  omega

/-- A continuation byte in range adds its six bits. -/
theorem step_continuation
    (bits more n : Nat)
    (least greatest : UInt8)
    (low : least.toNat ≤ 0x80 + n % 64)
    (high : 0x80 + n % 64 ≤ greatest.toNat) :
    step (some ⟨bits, more, least, greatest⟩) (continuation n) =
      match more with
      | 0 => ([Char.ofNat (bits * 64 + n % 64)], none)
      | more + 1 => ([], some ⟨bits * 64 + n % 64, more, 0x80, 0xBF⟩) := by
  have inside : least ≤ continuation n ∧ continuation n ≤ greatest := by
    simp only [UInt8.le_iff_toNat_le, toNat_continuation]
    exact ⟨low, high⟩
  simp only [step, inside, and_self, if_true, toNat_continuation, Nat.add_sub_cancel_left]

theorem first_one (n : Nat) (h : n < 0x80) :
    first (UInt8.ofNat n) = ([Char.ofNat n], none) := by
  have small : (UInt8.ofNat n).toNat = n := by
    simp only [UInt8.toNat_ofNat']
    omega
  simp only [first, UInt8.lt_iff_toNat_lt, small]
  exact if_pos h

theorem first_two (n : Nat) (low : 2 ≤ n) (high : n < 32) :
    first (UInt8.ofNat (0xC0 + n)) = ([], some ⟨n, 0, 0x80, 0xBF⟩) := by
  have all : ∀ n : Fin 32, 2 ≤ n.val ->
      first (UInt8.ofNat (0xC0 + n.val)) = ([], some ⟨n.val, 0, 0x80, 0xBF⟩) := by decide
  exact all ⟨n, high⟩ low

theorem first_three (n : Nat) (high : n < 16) :
    first (UInt8.ofNat (0xE0 + n)) =
      ([], some ⟨n, 1, if n = 0 then 0xA0 else 0x80, if n = 13 then 0x9F else 0xBF⟩) := by
  have all : ∀ n : Fin 16, first (UInt8.ofNat (0xE0 + n.val)) =
      ([], some ⟨n.val, 1, if n.val = 0 then 0xA0 else 0x80,
        if n.val = 13 then 0x9F else 0xBF⟩) := by decide
  exact all ⟨n, high⟩

theorem first_four (n : Nat) (high : n < 5) :
    first (UInt8.ofNat (0xF0 + n)) =
      ([], some ⟨n, 2, if n = 0 then 0x90 else 0x80, if n = 4 then 0x8F else 0xBF⟩) := by
  have all : ∀ n : Fin 5, first (UInt8.ofNat (0xF0 + n.val)) =
      ([], some ⟨n.val, 2, if n.val = 0 then 0x90 else 0x80,
        if n.val = 4 then 0x8F else 0xBF⟩) := by decide
  exact all ⟨n, high⟩

theorem step_none (b : UInt8) : step none b = first b := rfl

theorem push_eq
    (reversed : List Char)
    (state : State)
    (b : UInt8) :
    Reading.push ⟨reversed, state⟩ b =
      ⟨(step state b).1.reverse ++ reversed, (step state b).2⟩ := rfl

/-- Reading the bytes of a character between characters yields the character. -/
theorem foldl_push_encodeChar
    (reversed : List Char)
    (c : Char) :
    (encodeChar c).foldl Reading.push ⟨reversed, none⟩ = ⟨c :: reversed, none⟩ := by
  have back : Char.ofNat c.toNat = c := Char.ofNat_toNat c
  have valid : c.toNat < 0xD800 ∨ (0xDFFF < c.toNat ∧ c.toNat < 0x110000) := c.valid
  unfold encodeChar
  generalize c.toNat = n at back valid
  simp only
  split
  · rename_i small
    simp [push_eq, step_none, first_one n small, back]
  split
  · have s1 := first_two (n / 64) (by omega) (by omega)
    have s2 := step_continuation (n / 64) 0 n 0x80 0xBF (by simp) (by simp; omega)
    have value : n / 64 * 64 + n % 64 = n := by omega
    simp only [List.foldl_cons, List.foldl_nil, push_eq, step_none, s1, List.reverse_nil,
      List.nil_append]
    simp only [s2, value, back]
    rfl
  split
  · have s1 := first_three (n / 4096) (by omega)
    have s2 := step_continuation (n / 4096) 1 (n / 64)
      (if n / 4096 = 0 then 0xA0 else 0x80) (if n / 4096 = 13 then 0x9F else 0xBF)
      (by split <;> simp; omega) (by split <;> simp <;> omega)
    have s3 := step_continuation (n / 4096 * 64 + n / 64 % 64) 0 n 0x80 0xBF
      (by simp) (by simp; omega)
    have value : (n / 4096 * 64 + n / 64 % 64) * 64 + n % 64 = n := by omega
    simp only [List.foldl_cons, List.foldl_nil, push_eq, step_none, s1, List.reverse_nil,
      List.nil_append]
    simp only [s2, s3, value, back, List.reverse_nil, List.nil_append]
    rfl
  · have s1 := first_four (n / 262144) (by omega)
    have s2 := step_continuation (n / 262144) 2 (n / 4096)
      (if n / 262144 = 0 then 0x90 else 0x80) (if n / 262144 = 4 then 0x8F else 0xBF)
      (by split <;> simp; omega) (by split <;> simp <;> omega)
    have s3 := step_continuation (n / 262144 * 64 + n / 4096 % 64) 1 (n / 64) 0x80 0xBF
      (by simp) (by simp; omega)
    have s4 := step_continuation ((n / 262144 * 64 + n / 4096 % 64) * 64 + n / 64 % 64) 0 n
      0x80 0xBF (by simp) (by simp; omega)
    have value : ((n / 262144 * 64 + n / 4096 % 64) * 64 + n / 64 % 64) * 64 + n % 64 = n := by
      omega
    simp only [List.foldl_cons, List.foldl_nil, push_eq, step_none, s1, List.reverse_nil,
      List.nil_append]
    simp only [s2, s3, s4, value, back, List.reverse_nil, List.nil_append]
    rfl

theorem foldl_push_encode
    (text reversed : List Char) :
    (encode text).foldl Reading.push ⟨reversed, none⟩ =
      ⟨text.reverse ++ reversed, none⟩ := by
  induction text generalizing reversed with
  | nil => rfl
  | cons c text ih =>
      rw [encode_cons, List.foldl_append, foldl_push_encodeChar, ih]
      simp

/-- The reader inverts the writer. -/
@[simp] theorem decode_encode (text : List Char) :
    decode (encode text) = text := by
  unfold decode
  rw [foldl_push_encode text []]
  simp [Reading.text]

/-- The bytes of a string. -/
def ofString (text : String) : List UInt8 :=
  encode text.toList

/-- Read bytes as a string. -/
def toString (bytes : List UInt8) : String :=
  String.ofList (decode bytes)

@[simp] theorem toString_ofString (text : String) :
    toString (ofString text) = text := by
  simp [toString, ofString]

end Utf8
end CameraFleet
