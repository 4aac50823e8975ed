import CameraFleet.Text.Octets

/-!
# Members of parameters

In the extended language a parameter may have members: numbered ones, or ones
with texts for keys. Those with texts for keys are kept in a table, whose order
is that in which they are seen.
-/

namespace CameraFleet
namespace Shell

/-- The members that a parameter has. -/
inductive Members
  /-- There is one value only. -/
  | single
  /-- They are numbered, and in this order. -/
  | numbered (entries : List (Nat × Octets))
  /-- They have texts for keys; the newest one comes first. -/
  | keyed (entries : List (Octets × Octets))
  deriving Repr, DecidableEq

namespace Members

/-- The number of places in a table of members. -/
def tableSize : Nat := 1024

/-- The place of a key in a table of members. -/
def placeOf (key : Octets) : Nat :=
  let signed (c : Char) : Nat := if c.toNat < 128 then c.toNat else 4294967040 + c.toNat
  let hash := key.toList.foldl (fun hash c =>
    (hash * 16777619 % 4294967296) ^^^ signed c) 2166136261
  hash % tableSize

/-- Entries in the order of a table; of those at the same place the newest one comes first. -/
def tableOrder (entries : List (Octets × Octets)) : List (Octets × Octets) :=
  entries.mergeSort fun a b => decide (placeOf a.1 ≤ placeOf b.1)

/-- Entries with a number among them, which may replace an older one. -/
def insert (number : Nat) (value : Octets) : List (Nat × Octets) -> List (Nat × Octets)
  | [] => [(number, value)]
  | (other, old) :: rest =>
      if number < other then (number, value) :: (other, old) :: rest
      else if number = other then (number, value) :: rest
      else (other, old) :: insert number value rest

/-- Entries with a key among them, which may replace an older one. -/
def replace (key value : Octets) (entries : List (Octets × Octets)) : List (Octets × Octets) :=
  if entries.any (·.1 == key) then
    entries.map fun (other, old) => if other == key then (key, value) else (other, old)
  else (key, value) :: entries

/-- The number after the last one. -/
def next (entries : List (Nat × Octets)) : Nat :=
  match entries.getLast? with
  | some (number, _) => number + 1
  | none => 0

/-- All members with the texts of their keys, as they are seen. -/
def entries : Members -> List (Octets × Octets)
  | .single => []
  | .numbered entries => entries.map fun (number, value) => (toString number, value)
  | .keyed entries => tableOrder entries

/-- Whether the members have texts for keys. -/
def isKeyed : Members -> Bool
  | .keyed _ => true
  | _ => false

/-- Whether there is one value only. -/
def isSingle : Members -> Bool
  | .single => true
  | _ => false

/-- The member that stands for a parameter with members as such. -/
def leading? : Members -> Option Octets
  | .single => none
  | .numbered entries => entries.lookup 0
  | .keyed entries => entries.lookup "0"

end Members
end Shell
end CameraFleet
