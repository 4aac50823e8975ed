import CameraFleet.Text.Octets

/-!
# Digests

A digest takes bytes in blocks of one size. The last block is filled up: a bit
that is set comes after the bytes, then bits that are not, and at the end the
number of bits. The state after all blocks, written as bytes, is the digest.

The constants of digests are fractions of roots, or of sines, of small numbers;
`fractionOfRoot` and `fractionOfSine` say which.
-/

namespace CameraFleet
namespace Digest

/-- The order of the bytes of a number. -/
inductive ByteOrder
  /-- The least one comes first. -/
  | littleEndian
  /-- The greatest one comes first. -/
  | bigEndian
  deriving Repr, DecidableEq

/-- So many bytes of a number, the least one first. -/
def lowBytes : Nat -> Nat -> List UInt8
  | 0, _ => []
  | count + 1, number => UInt8.ofNat (number % 256) :: lowBytes count (number / 256)

/-- So many bytes of a number. -/
def ByteOrder.bytes
    (order : ByteOrder)
    (count number : Nat) : List UInt8 :=
  match order with
  | .littleEndian => lowBytes count number
  | .bigEndian => (lowBytes count number).reverse

/-- The number of some bytes from a place on. -/
def ByteOrder.number
    (order : ByteOrder)
    (bytes : ByteArray)
    (start count : Nat) : Nat :=
  let step (total place : Nat) : Nat := total * 256 + (bytes.data.getD place 0).toNat
  let places := (List.range count).map (start + ·)
  match order with
  | .bigEndian => places.foldl step 0
  | .littleEndian => places.reverse.foldl step 0

/-- Bytes, filled up to blocks of a size; their number of bits takes up some bytes at the end. -/
def filled
    (order : ByteOrder)
    (size lengthSize : Nat)
    (bytes : ByteArray) : ByteArray :=
  let used := (bytes.size + 1 + lengthSize) % size
  let zeros := if used = 0 then 0 else size - used
  let ending := 128 :: List.replicate zeros 0 ++ order.bytes lengthSize (8 * bytes.size)
  bytes ++ ⟨ending.toArray⟩

/-- The state after some blocks; the numbers are those of the blocks. -/
def overBlocks
    (step : σ -> Nat -> σ)
    (count : Nat)
    (start : σ) : σ :=
  (List.range count).foldl step start

/-- Bytes in hexadecimal digits. -/
def hexadecimal (bytes : List UInt8) : Octets :=
  let digit (n : Nat) : Char := "0123456789abcdef".toList.getD n '0'
  String.ofList (bytes.flatMap fun byte => [digit (byte.toNat / 16), digit (byte.toNat % 16)])

/-! ## Constants -/

/-- The greatest number whose power is no greater than a bound; it is sought bit by bit. -/
def root (degree bound : Nat) : Nat -> Nat -> Nat
  | 0, found => found
  | bits + 1, found =>
      let next := found + Nat.pow 2 bits
      root degree bound bits (if Nat.pow next degree ≤ bound then next else found)

/-- So many bits of the fraction of a root of a number below 512. -/
def fractionOfRoot (degree bits number : Nat) : Nat :=
  root degree (number * Nat.pow 2 (degree * bits)) (bits + 9) 0 % Nat.pow 2 bits

/-- The first primes, so many of them. -/
def primes (count : Nat) : List Nat :=
  let isPrime (n : Nat) : Bool := 2 ≤ n && (List.range n).all fun d => d < 2 || n % d != 0
  ((List.range 512).filter isPrime).take count

/-- The terms of a series for a sine from one on, added up; the fractions have 256 bits. -/
def sineSeries (square : Nat) : Nat -> Nat -> Int -> Int
  | 0, _, _ => 0
  | fuel + 1, place, term =>
      term + sineSeries square fuel (place + 2) (-term * square / ((place + 1) * (place + 2) : Nat))

/-- The first 32 bits of the fraction of a sine, without its sign. -/
def fractionOfSine (angle : Nat) : Nat :=
  let scale := Nat.pow 2 256
  (sineSeries (angle * angle) 200 1 (angle * scale : Nat)).natAbs / Nat.pow 2 224 % Nat.pow 2 32

end Digest
end CameraFleet
