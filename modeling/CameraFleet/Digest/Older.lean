import CameraFleet.Digest.Basic

/-!
# Sums, MD5 and SHA-1

Sums are short numbers that change when bytes do: the remainder of a polynomial,
and two plain sums. MD5 is a digest of 16 bytes. Each block has 16 words; in each
of 64 steps one of them is added to a mixture of the state, and the sum is rotated.
SHA-1 is a digest of 20 bytes: the 16 words of a block are made into 80, one for
each step.
-/

namespace CameraFleet
namespace Digest
namespace Sum

/-- The remainder after a bit: what is divided is shifted on. -/
def shiftOn (word : UInt32) : UInt32 :=
  if word &&& 0x80000000 == 0 then word <<< 1 else (word <<< 1) ^^^ 0x04c11db7

/-- The remainder after a byte. -/
def overByte (word : UInt32) (byte : UInt8) : UInt32 :=
  (List.range 8).foldl (fun word _ => shiftOn word) (word ^^^ (byte.toUInt32 <<< 24))

/-- The bytes of a number, the least one first, without zeros at the end. -/
def lengthBytes : Nat -> Nat -> List UInt8
  | 0, _ => []
  | fuel + 1, number =>
      if number = 0 then [] else UInt8.ofNat (number % 256) :: lengthBytes fuel (number / 256)

/-- The remainder of some bytes and their number. -/
def remainder (bytes : ByteArray) : UInt32 :=
  ~~~ ((lengthBytes 16 bytes.size).foldl overByte (bytes.foldl overByte 0))

/-- The sum of some bytes in 16 bits that are rotated before each of them. -/
def rotating (bytes : ByteArray) : Nat :=
  bytes.foldl (fun total byte =>
    ((total / 2 + total % 2 * 32768) + byte.toNat) % 65536) 0

/-- The sum of some bytes, folded into 16 bits. -/
def folded (bytes : ByteArray) : Nat :=
  let total := bytes.foldl (fun total byte => total + byte.toNat) 0 % Nat.pow 2 32
  let once := total % 65536 + total / 65536
  once % 65536 + once / 65536

end Sum

namespace Md5

/-- The state: four words. -/
structure State where
  /-- The first word. -/
  a : UInt32 := 0x67452301
  /-- The second word. -/
  b : UInt32 := 0xefcdab89
  /-- The third word. -/
  c : UInt32 := 0x98badcfe
  /-- The fourth word. -/
  d : UInt32 := 0x10325476

/-- The constants of the steps. -/
def constants : Array UInt32 :=
  ((List.range 64).map fun step => UInt32.ofNat (fractionOfSine (step + 1))).toArray

/-- By how many bits a step rotates. -/
def rotations : Array UInt32 :=
  #[7, 12, 17, 22, 5, 9, 14, 20, 4, 11, 16, 23, 6, 10, 15, 21]

/-- Rotate a word to the left. -/
def rotate (word count : UInt32) : UInt32 :=
  (word <<< count) ||| (word >>> (32 - count))

/-- One step over the words of a block. -/
def step (words : Array UInt32) (state : State) (number : Nat) : State :=
  let { a, b, c, d } := state
  let (mixed, place) :=
    match number / 16 with
    | 0 => ((b &&& c) ||| ((~~~ b) &&& d), number)
    | 1 => ((d &&& b) ||| ((~~~ d) &&& c), 5 * number + 1)
    | 2 => (b ^^^ c ^^^ d, 3 * number + 5)
    | _ => (c ^^^ (b ||| (~~~ d)), 7 * number)
  let sum := a + mixed + constants.getD number 0 + words.getD (place % 16) 0
  let turned := rotate sum (rotations.getD (number / 16 * 4 + number % 4) 0)
  { a := d, b := b + turned, c := b, d := c }

/-- The state after a block. -/
def block (bytes : ByteArray) (state : State) (number : Nat) : State :=
  let words := (List.range 16).map fun place =>
    UInt32.ofNat (ByteOrder.littleEndian.number bytes (64 * number + 4 * place) 4)
  let after := (List.range 64).foldl (step words.toArray) state
  { a := state.a + after.a, b := state.b + after.b, c := state.c + after.c, d := state.d + after.d }

/-- The digest of some bytes. -/
def digest (bytes : ByteArray) : List UInt8 :=
  let whole := filled .littleEndian 64 8 bytes
  let state := overBlocks (block whole) (whole.size / 64) {}
  [state.a, state.b, state.c, state.d].flatMap fun word =>
    ByteOrder.littleEndian.bytes 4 word.toNat

end Md5

namespace Sha1

/-- The state: five words. -/
structure State where
  /-- The first word. -/
  a : UInt32 := 0x67452301
  /-- The second word. -/
  b : UInt32 := 0xefcdab89
  /-- The third word. -/
  c : UInt32 := 0x98badcfe
  /-- The fourth word. -/
  d : UInt32 := 0x10325476
  /-- The fifth word. -/
  e : UInt32 := 0xc3d2e1f0

/-- The words of a block with the next one after them. -/
def extended (words : Array UInt32) (number : Nat) : Array UInt32 :=
  let word (back : Nat) : UInt32 := words.getD (number - back) 0
  words.push (Md5.rotate (word 3 ^^^ word 8 ^^^ word 14 ^^^ word 16) 1)

/-- One step. -/
def step (words : Array UInt32) (state : State) (number : Nat) : State :=
  let { a, b, c, d, e } := state
  let (mixed, constant) : UInt32 × UInt32 :=
    match number / 20 with
    | 0 => ((b &&& c) ||| ((~~~ b) &&& d), 0x5a827999)
    | 1 => (b ^^^ c ^^^ d, 0x6ed9eba1)
    | 2 => ((b &&& c) ||| (b &&& d) ||| (c &&& d), 0x8f1bbcdc)
    | _ => (b ^^^ c ^^^ d, 0xca62c1d6)
  { a := Md5.rotate a 5 + mixed + e + constant + words.getD number 0
    b := a, c := Md5.rotate b 30, d := c, e := d }

/-- The state after a block. -/
def block (bytes : ByteArray) (state : State) (number : Nat) : State :=
  let first := (List.range 16).map fun place =>
    UInt32.ofNat (ByteOrder.bigEndian.number bytes (64 * number + 4 * place) 4)
  let words := ((List.range 64).map (16 + ·)).foldl extended first.toArray
  let after := (List.range 80).foldl (step words) state
  { a := state.a + after.a, b := state.b + after.b, c := state.c + after.c, d := state.d + after.d
    e := state.e + after.e }

/-- The digest of some bytes. -/
def digest (bytes : ByteArray) : List UInt8 :=
  let whole := filled .bigEndian 64 8 bytes
  let state := overBlocks (block whole) (whole.size / 64) {}
  [state.a, state.b, state.c, state.d, state.e].flatMap fun word =>
    ByteOrder.bigEndian.bytes 4 word.toNat

end Sha1
end Digest
end CameraFleet
