import CameraFleet.Text.Octets
import Std.Data.HashMap

/-!
# Arrays with keys

The keys of an array are texts. Where a key is a whole number it can also be
found by that. Keys stand in lists, which are chosen by a hash of the text or by
the number; a key that is asked for moves to the front of its list. The lists
decide in which order the keys are gone through.
-/

namespace CameraFleet
namespace Programs
namespace Records

/-- A key: a text, or a whole number. -/
inductive Key
  /-- A text. -/
  | text (text : Octets)
  /-- A whole number. -/
  | number (n : Int)
  deriving Repr, DecidableEq

/-- An array. -/
structure Table (α : Type) where
  /-- The elements, by the texts of their keys. -/
  values : Std.HashMap Octets α := {}
  /-- The lists of texts; there are none before they are needed. -/
  texts : Array (List Octets) := #[]
  /-- The lists of whole numbers; there are none before they are needed. -/
  numbers : Array (List Int) := #[]
  /-- The number of elements, where they were put one after another and no list is needed. -/
  row : Option Nat := none
  /-- The number of lists. -/
  lists : Nat := 64

namespace Table

/-- The hash of a text. -/
def hashOf (text : Octets) : Nat :=
  text.toList.foldl (fun hash c => (hash ^^^ c.toNat) * 16777619 % 4294967296) 2166136261

/-- The list for a text, of so many. -/
def textPlace (lists : Nat) (text : Octets) : Nat :=
  hashOf text % lists

/-- The list for a number, of so many. -/
def numberPlace (lists : Nat) (n : Int) : Nat :=
  (n.emod lists).toNat

/-- The number of elements. -/
def size (table : Table α) : Nat :=
  table.values.size

/-- A list with an element at its front, where it may have been before. -/
def toFront [BEq β] (element : β) (list : List β) : List β :=
  element :: list.filter (!· == element)

/-- So many empty lists. -/
def emptyLists (β : Type) (count : Nat) : Array (List β) :=
  Array.replicate count []

/-- Put the numbers of a row on lists. -/
def withoutRow (table : Table α) : Table α :=
  match table.row with
  | none => table
  | some count =>
      let lists := table.lists
      let numbers := (List.range count).foldl (fun (numbers : Array (List Int)) n =>
        numbers.modify (numberPlace lists (n + 1 : Nat)) (((n + 1 : Nat) : Int) :: ·))
        (emptyLists Int lists)
      { table with row := none, numbers }

/-- Put every key on a list of texts. -/
def withTexts (table : Table α) : Table α :=
  let table := table.withoutRow
  if !table.texts.isEmpty then table
  else
    let lists := table.lists
    let texts := table.numbers.foldl (fun (texts : Array (List Octets)) list =>
      list.foldl (fun texts n => texts.modify (textPlace lists (toString n)) (toString n :: ·)) texts)
      (emptyLists Octets lists)
    { table with texts }

/-- Have lists of numbers. -/
def withNumbers (table : Table α) : Table α :=
  let table := table.withoutRow
  if table.numbers.isEmpty then { table with numbers := emptyLists Int table.lists } else table

/-- The lists when there are twice as many: each leaves what does not belong to it any longer. -/
def doubled
    (place : β -> Nat)
    (lists : Array (List β)) : Array (List β) :=
  let parts := lists.mapIdx fun i list => list.partition fun element => place element = i
  parts.map (·.1) ++ parts.map (·.2)

/-- Have twice as many lists if they have become too long. -/
def widened (table : Table α) : Table α :=
  if 12 * table.lists < table.size then
    let lists := 2 * table.lists
    { table with
      lists
      texts := if table.texts.isEmpty then #[] else doubled (textPlace lists) table.texts
      numbers := if table.numbers.isEmpty then #[] else doubled (numberPlace lists) table.numbers }
  else table

/-- Find an element by the text of its key, or make it. -/
def findText
    (table : Table α)
    (text : Octets)
    (fresh : Option α) : Option α × Table α :=
  let table := table.withTexts
  match table.values[text]?, fresh with
  | some value, _ =>
      let place := textPlace table.lists text
      (some value, { table with texts := table.texts.modify place (toFront text) })
  | none, none => (none, table)
  | none, some fresh =>
      let table := { table with values := table.values.insert text fresh }.widened
      let place := textPlace table.lists text
      (some fresh, { table with texts := table.texts.modify place (text :: ·) })

/-- Find an element by the number of its key, or make it. -/
def findNumber
    (table : Table α)
    (n : Int)
    (fresh : Option α) : Option α × Table α :=
  let text := toString n
  let isInRow := table.row.any fun count => 1 ≤ n && n ≤ count
  if isInRow then (table.values[text]?, table)
  else if table.row.isSome && fresh.isNone then (none, table)
  else
    let table := table.withNumbers
    let place := numberPlace table.lists n
    if (table.numbers.getD place []).contains n then
      (table.values[text]?, { table with numbers := table.numbers.modify place (toFront n) })
    else
      let (found, table) :=
        if !table.texts.isEmpty then table.findText text fresh
        else
          match fresh with
          | none => (none, table)
          | some fresh =>
              (some fresh, { table with values := table.values.insert text fresh }.widened)
      let place := numberPlace table.lists n
      match found with
      | none => (none, table)
      | some value => (some value, { table with numbers := table.numbers.modify place (n :: ·) })

/-- Find an element, or make it. -/
def find
    (table : Table α)
    (key : Key)
    (fresh : Option α) : Option α × Table α :=
  if table.values.isEmpty && fresh.isNone then (none, table)
  else
    match key with
    | .text text => table.findText text fresh
    | .number n => table.findNumber n fresh

/-- The text of a key. -/
def textOf : Key -> Octets
  | .text text => text
  | .number n => toString n

/-- Give a value to an element. -/
def set
    (table : Table α)
    (key : Key)
    (value : α) : Table α :=
  let (_, table) := table.find key (some value)
  { table with values := table.values.insert (textOf key) value }

/-- Take an element away. -/
def delete
    (table : Table α)
    (key : Key) : Table α :=
  if table.values.isEmpty then table
  else
    let text := textOf key
    let isOutside :=
      match key with
      | .number n => table.row.any fun count => n < 1 || (count : Int) < n
      | .text _ => false
    if isOutside then table
    else
      let table := (table.withoutRow.find key none).2
      if !table.values.contains text then table
      else
        let values := table.values.erase text
        if values.isEmpty then {}
        else
          let texts := table.texts.modify (textPlace table.lists text) (List.filter (!· == text))
          let numbers :=
            match text.toInt?.filter fun n => toString n == text with
            | some n => table.numbers.modify (numberPlace table.lists n) (List.filter (!· == n))
            | none => table.numbers
          { table with values, texts, numbers }

/-- The keys in the order in which they are gone through. -/
def keys (table : Table α) : List Octets × Table α :=
  if table.values.isEmpty then ([], table)
  else
    let table := table.withTexts
    (table.texts.toList.flatMap fun list => list, table)

/-- The array of some values, one after another. -/
def ofList (values : List α) : Table α :=
  let entries := values.zipIdx.map fun (value, i) => (toString (i + 1), value)
  let count := values.length
  let lists := (List.range 32).foldl
    (fun lists _ => if 12 * lists < count then 2 * lists else lists) 64
  { values := Std.HashMap.ofList entries, row := if count = 0 then none else some count, lists }

end Table
end Records
end Programs
end CameraFleet
