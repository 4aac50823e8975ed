import CameraFleet.Digest.Sha2

/-!
# BLAKE2b

A digest of up to 64 bytes. A state of eight words is mixed with the 16 words of
a block, in twelve rounds, each of which takes the words in another order.
-/

namespace CameraFleet
namespace Digest
namespace Blake2

/-- The words from which the state starts. -/
def start : List UInt64 :=
  (Sha2.constantsOf 64 2 8).map UInt64.ofNat

/-- The orders in which rounds take the words of a block. -/
def orders : List (List Nat) :=
  [[0, 1, 2, 3, 4, 5, 6, 7, 8, 9, 10, 11, 12, 13, 14, 15],
    [14, 10, 4, 8, 9, 15, 13, 6, 1, 12, 0, 2, 11, 7, 5, 3],
    [11, 8, 12, 0, 5, 2, 15, 13, 10, 14, 3, 6, 7, 1, 9, 4],
    [7, 9, 3, 1, 13, 12, 11, 14, 2, 6, 5, 10, 4, 0, 15, 8],
    [9, 0, 5, 7, 2, 4, 10, 15, 14, 1, 11, 12, 6, 8, 3, 13],
    [2, 12, 6, 10, 0, 11, 8, 3, 4, 13, 7, 5, 15, 14, 1, 9],
    [12, 5, 1, 15, 14, 13, 4, 10, 0, 7, 6, 3, 9, 2, 8, 11],
    [13, 11, 7, 14, 12, 1, 3, 9, 5, 0, 15, 4, 8, 6, 2, 10],
    [6, 15, 14, 9, 11, 3, 0, 8, 12, 2, 13, 7, 1, 4, 10, 5],
    [10, 2, 8, 4, 7, 6, 1, 5, 15, 11, 9, 14, 3, 12, 13, 0]]

/-- The places of the four words that are mixed in each step of a round. -/
def places : List (Nat × Nat × Nat × Nat) :=
  [(0, 4, 8, 12), (1, 5, 9, 13), (2, 6, 10, 14), (3, 7, 11, 15), (0, 5, 10, 15), (1, 6, 11, 12),
    (2, 7, 8, 13), (3, 4, 9, 14)]

/-- Mix four words with two words of a block. -/
def mix
    (words : Array UInt64)
    (place : Nat × Nat × Nat × Nat)
    (x y : UInt64) : Array UInt64 :=
  let (i, j, k, l) := place
  let a := words.getD i 0 + words.getD j 0 + x
  let d := Sha2.turn64 (words.getD l 0 ^^^ a) 32
  let c := words.getD k 0 + d
  let b := Sha2.turn64 (words.getD j 0 ^^^ c) 24
  let a := a + b + y
  let d := Sha2.turn64 (d ^^^ a) 16
  let c := c + d
  let b := Sha2.turn64 (b ^^^ c) 63
  (((words.setIfInBounds i a).setIfInBounds j b).setIfInBounds k c).setIfInBounds l d

/-- One round. -/
def round
    (block : Array UInt64)
    (words : Array UInt64)
    (number : Nat) : Array UInt64 :=
  let order := orders.getD (number % 10) []
  places.zipIdx.foldl (fun words (place, step) =>
    mix words place (block.getD (order.getD (2 * step) 0) 0)
      (block.getD (order.getD (2 * step + 1) 0) 0)) words

/-- The state after a block, up to whose end there are so many bytes. -/
def compress
    (state : List UInt64)
    (block : Array UInt64)
    (total : Nat)
    (isLast : Bool) : List UInt64 :=
  let ends := start.zipIdx.map fun (word, place) =>
    if place = 4 then word ^^^ UInt64.ofNat total
    else if place = 6 && isLast then ~~~ word
    else word
  let words := (List.range 12).foldl (round block) (state ++ ends).toArray
  state.zipIdx.map fun (word, place) =>
    word ^^^ words.getD place 0 ^^^ words.getD (place + 8) 0

/-- The digest of so many bytes of some bytes. -/
def digest (size : Nat) (bytes : ByteArray) : List UInt8 :=
  let first :=
    start.zipIdx.map fun (word, place) =>
      if place = 0 then word ^^^ 0x01010000 ^^^ UInt64.ofNat size else word
  let count := max 1 ((bytes.size + 127) / 128)
  let state := overBlocks (fun state number =>
    let block := (List.range 16).map fun place =>
      UInt64.ofNat (ByteOrder.littleEndian.number bytes (128 * number + 8 * place) 8)
    compress state block.toArray (min bytes.size (128 * (number + 1))) (number + 1 == count))
    count first
  (state.flatMap fun word => ByteOrder.littleEndian.bytes 8 word.toNat).take size

end Blake2
end Digest
end CameraFleet
