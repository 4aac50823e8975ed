import CameraFleet.Digest.Basic

/-!
# SHA-2

Digests of 28 to 64 bytes. They exist for words of 32 bits and for words of 64
bits, and differ in their rotations and in the number of their steps.
-/

namespace CameraFleet
namespace Digest
namespace Sha2

/-- A kind of words, with the rotations that belong to it. -/
structure Kind (ω : Type) where
  /-- The number of bits. -/
  bits : Nat
  /-- The number of steps. -/
  steps : Nat
  /-- A word of a number. -/
  ofNat : Nat -> ω
  /-- The number of a word. -/
  toNat : ω -> Nat
  /-- The sum of two words. -/
  add : ω -> ω -> ω
  /-- The choice that a word makes between two others. -/
  choice : ω -> ω -> ω -> ω
  /-- The bits on which most of three words agree. -/
  majority : ω -> ω -> ω -> ω
  /-- The mixture of the first word of a state. -/
  upper : ω -> ω
  /-- The mixture of the fifth word of a state. -/
  lower : ω -> ω
  /-- The mixture of the word fifteen places back. -/
  early : ω -> ω
  /-- The mixture of the word two places back. -/
  late : ω -> ω

/-- Rotate a word of 32 bits to the right. -/
def turn32 (word count : UInt32) : UInt32 :=
  (word >>> count) ||| (word <<< (32 - count))

/-- Rotate a word of 64 bits to the right. -/
def turn64 (word count : UInt64) : UInt64 :=
  (word >>> count) ||| (word <<< (64 - count))

/-- Words of 32 bits. -/
def words32 : Kind UInt32 where
  bits := 32
  steps := 64
  ofNat := UInt32.ofNat
  toNat := UInt32.toNat
  add := (· + ·)
  choice x y z := (x &&& y) ^^^ ((~~~ x) &&& z)
  majority x y z := (x &&& y) ^^^ (x &&& z) ^^^ (y &&& z)
  upper x := turn32 x 2 ^^^ turn32 x 13 ^^^ turn32 x 22
  lower x := turn32 x 6 ^^^ turn32 x 11 ^^^ turn32 x 25
  early x := turn32 x 7 ^^^ turn32 x 18 ^^^ (x >>> 3)
  late x := turn32 x 17 ^^^ turn32 x 19 ^^^ (x >>> 10)

/-- Words of 64 bits. -/
def words64 : Kind UInt64 where
  bits := 64
  steps := 80
  ofNat := UInt64.ofNat
  toNat := UInt64.toNat
  add := (· + ·)
  choice x y z := (x &&& y) ^^^ ((~~~ x) &&& z)
  majority x y z := (x &&& y) ^^^ (x &&& z) ^^^ (y &&& z)
  upper x := turn64 x 28 ^^^ turn64 x 34 ^^^ turn64 x 39
  lower x := turn64 x 14 ^^^ turn64 x 18 ^^^ turn64 x 41
  early x := turn64 x 1 ^^^ turn64 x 8 ^^^ (x >>> 7)
  late x := turn64 x 19 ^^^ turn64 x 61 ^^^ (x >>> 6)

/-- The fractions of the roots of some primes. -/
def constantsOf (bits degree count : Nat) : List Nat :=
  (primes count).map (fractionOfRoot degree bits)

/-- The constants of the steps with words of 32 bits. -/
def constants32 : Array UInt32 :=
  ((constantsOf 32 3 64).map UInt32.ofNat).toArray

/-- The constants of the steps with words of 64 bits. -/
def constants64 : Array UInt64 :=
  ((constantsOf 64 3 80).map UInt64.ofNat).toArray

namespace Kind

/-- The words of a block with the next one after them. -/
def extended
    (kind : Kind ω)
    (words : Array ω)
    (number : Nat) : Array ω :=
  let word (back : Nat) : ω := words.getD (number - back) (kind.ofNat 0)
  words.push
    (kind.add (kind.add (kind.late (word 2)) (word 7)) (kind.add (kind.early (word 15)) (word 16)))

/-- One step of a state of eight words. -/
def step
    (kind : Kind ω)
    (constants words : Array ω)
    (state : List ω)
    (number : Nat) : List ω :=
  match state with
  | [a, b, c, d, e, f, g, h] =>
      let zero := kind.ofNat 0
      let added := kind.add (constants.getD number zero) (words.getD number zero)
      let first := kind.add (kind.add h (kind.lower e)) (kind.add (kind.choice e f g) added)
      let second := kind.add (kind.upper a) (kind.majority a b c)
      [kind.add first second, a, b, c, kind.add d first, e, f, g]
  | state => state

/-- The state after a block. -/
def block
    (kind : Kind ω)
    (constants : Array ω)
    (bytes : ByteArray)
    (state : List ω)
    (number : Nat) : List ω :=
  let size := kind.bits / 8
  let first := (List.range 16).map fun place =>
    kind.ofNat (ByteOrder.bigEndian.number bytes (16 * size * number + size * place) size)
  let words :=
    ((List.range (kind.steps - 16)).map (16 + ·)).foldl kind.extended first.toArray
  let after := (List.range kind.steps).foldl (kind.step constants words) state
  state.zipWith kind.add after

/-- The first bytes of the digest of some bytes from a state on. -/
def digest
    (kind : Kind ω)
    (constants : Array ω)
    (start : List Nat)
    (count : Nat)
    (bytes : ByteArray) : List UInt8 :=
  let size := kind.bits / 8
  let whole := filled .bigEndian (16 * size) (2 * size) bytes
  let state :=
    overBlocks (kind.block constants whole) (whole.size / (16 * size)) (start.map kind.ofNat)
  (state.flatMap fun word => ByteOrder.bigEndian.bytes size (kind.toNat word)).take count

end Kind

/-- The digest of 32 bytes. -/
def digest256 (bytes : ByteArray) : List UInt8 :=
  words32.digest constants32 (constantsOf 32 2 8) 32 bytes

/-- The digest of 28 bytes. -/
def digest224 (bytes : ByteArray) : List UInt8 :=
  words32.digest constants32 ((constantsOf 64 2 16).drop 8) 28 bytes

/-- The digest of 64 bytes. -/
def digest512 (bytes : ByteArray) : List UInt8 :=
  words64.digest constants64 (constantsOf 64 2 8) 64 bytes

/-- The digest of 48 bytes. -/
def digest384 (bytes : ByteArray) : List UInt8 :=
  words64.digest constants64 ((constantsOf 64 2 16).drop 8) 48 bytes

end Sha2
end Digest
end CameraFleet
