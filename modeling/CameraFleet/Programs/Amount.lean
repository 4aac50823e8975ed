import CameraFleet.Programs.Basic

/-!
# Amounts

A large number of bytes is written shortly, with the letter of a unit: a small
count of units has one more digit. What is left over counts as a whole. A number
that is given as an argument may have to lie between two bounds.
-/

namespace CameraFleet
namespace Programs

/-- Units, the smallest one first: each has a letter and is so many times the one before. -/
structure UnitScale where
  /-- How many make up the next unit. -/
  base : Nat
  /-- The letters. -/
  letters : List Char
  deriving Repr, DecidableEq

namespace UnitScale

/-- Units that are powers of 1024. -/
def binary : UnitScale := ⟨1024, ['K', 'M', 'G', 'T', 'P', 'E', 'Z', 'Y']⟩

/-- Units that are powers of 1000. -/
def decimal : UnitScale := ⟨1000, ['k', 'M', 'G', 'T', 'P', 'E', 'Z', 'Y']⟩

/-- A count of units and its letter; the number is what one unit means. -/
def shortOn (scale : UnitScale) (bytes : Nat) : Nat -> List Char -> Octets
  | _, [] => toString bytes
  | unit, letter :: rest =>
      let whole (count : Nat) : Octets := (toString count).push letter
      let tenths := (bytes * 10 + unit - 1) / unit
      let count := (bytes + unit - 1) / unit
      if tenths < 100 then s!"{tenths / 10}.{tenths % 10}".push letter
      else if count < scale.base || rest.isEmpty then whole count
      else shortOn scale bytes (unit * scale.base) rest

/-- A number of bytes, written shortly. -/
def short (scale : UnitScale) (bytes : Nat) : Octets :=
  if bytes < scale.base then toString bytes
  else scale.shortOn bytes scale.base scale.letters

end UnitScale

/-- The greatest number that fits into eight bytes with a sign. -/
def greatestInteger : Int := 9223372036854775807

/-- A number between two bounds, or what is wrong with it. -/
def bounded
    (text : Octets)
    (least most : Int) : Except Octets Int :=
  let quoted := Quoted.plain text
  match integer? (String.ofList (text.toList.dropWhile (· == ' '))) with
  | none => .error quoted
  | some n =>
      if least ≤ n && n ≤ most then .ok n
      else if n < -1073741824 || 1073741823 < n then
        .error s!"{quoted}: Value too large for defined data type"
      else .error s!"{quoted}: Numerical result out of range"

/-- A natural number between two bounds, or what is wrong with it. -/
def boundedNatural
    (text : Octets)
    (least most : Nat) : Except Octets Nat := do
  if text.startsWith "-" then throw (Quoted.plain text)
  let n ← bounded text least most
  pure n.toNat

end Programs
end CameraFleet
