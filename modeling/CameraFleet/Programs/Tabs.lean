import CameraFleet.Programs.Fields

/-!
# Tabs and blanks

Tabs are replaced by blanks up to the next tab stop, or blanks by tabs.
-/

namespace CameraFleet
namespace Programs

open Host

namespace Tabs

/-- What comes after the last tab stop. -/
inductive Beyond
  /-- There are no more stops. -/
  | nothing
  /-- There is one at each multiple of a number. -/
  | multiples (size : Nat)
  /-- There is one at each multiple of a number, counted from the last stop. -/
  | steps (size : Nat)
  deriving Repr, DecidableEq

/-- Where tab stops are. -/
structure Stops where
  /-- The first ones. -/
  places : List Nat
  /-- What comes after them. -/
  beyond : Beyond
  deriving Repr, DecidableEq

namespace Stops

/-- The next stop after a column, if there is one. -/
def next? (stops : Stops) (column : Nat) : Option Nat :=
  match stops.places.find? (column < ·) with
  | some place => some place
  | none =>
      match stops.beyond with
      | .nothing => none
      | .multiples size => some (column + size - column % size)
      | .steps size =>
          let last := stops.places.getLast?.getD 0
          some (column + size - (column - last) % size)

/-! ## Reading -/

/-- What has been read of tab stops. -/
structure Reading where
  /-- The first stops. -/
  places : List Nat := []
  /-- The number after a slash. -/
  multiples : Option Nat := none
  /-- The number after a plus sign. -/
  steps : Option Nat := none

/-- Add a number with a sign before it. -/
def Reading.add
    (reading : Reading)
    (sign : Option Char)
    (number : Nat) : Except Octets Reading :=
  match sign with
  | some '/' =>
      if reading.multiples.isSome then .error "'/' specifier only allowed with the last value"
      else .ok { reading with multiples := some number }
  | some _ =>
      if reading.steps.isSome then .error "'+' specifier only allowed with the last value"
      else .ok { reading with steps := some number }
  | none => .ok { reading with places := reading.places ++ [number] }

/-- Read tab stops; the number bounds the steps. -/
def readOn : Nat -> Option Char -> Reading -> List Char -> Except Octets Reading
  | 0, _, reading, _ => .ok reading
  | _ + 1, _, reading, [] => .ok reading
  | fuel + 1, sign, reading, c :: rest =>
      if c == ',' || c == ' ' || c == '\t' then readOn fuel none reading rest
      else if c == '/' || c == '+' then readOn fuel (some c) reading rest
      else if c.isDigit then do
        let digits := c :: rest.takeWhile Char.isDigit
        let text := String.ofList digits
        let number := (natural? text).getD 0
        let after := rest.dropWhile Char.isDigit
        if 18446744073709551615 < number then
          throw s!"tab stop is too large {Quoted.plain text}"
        match after with
        | mark :: _ =>
            if mark == '/' || mark == '+' then
              let text := Quoted.plain (String.ofList after)
              throw s!"'{String.singleton mark}' specifier not at start of number: {text}"
        | [] => pure ()
        let reading ← reading.add sign number
        readOn fuel none reading after
      else
        let text := Quoted.plain (String.ofList (c :: rest))
        .error s!"tab size contains invalid character(s): {text}"

/-- Whether numbers get greater and greater. -/
def areAscending : List Nat -> Bool
  | a :: b :: rest => a < b && areAscending (b :: rest)
  | _ => true

/-- The tab stops that some texts give, or what is wrong with them. -/
def ofTexts (texts : List Octets) : Except Octets Stops := do
  let reading ← texts.foldlM (fun reading text =>
    readOn (text.length + 1) none reading text.toList) ({} : Reading)
  if reading.places.contains 0 then throw "tab size cannot be 0"
  if !areAscending reading.places then throw "tab sizes must be ascending"
  match reading.multiples.filter (· != 0), reading.steps.filter (· != 0), reading.places with
  | some _, some _, _ => throw "'/' specifier is mutually exclusive with '+'"
  | some size, none, places => pure { places, beyond := .multiples size }
  | none, some size, [] => pure { places := [], beyond := .multiples size }
  | none, some size, places => pure { places, beyond := .steps size }
  | none, none, [] => pure { places := [], beyond := .multiples 8 }
  | none, none, [size] => pure { places := [], beyond := .multiples size }
  | none, none, places => pure { places, beyond := .nothing }

end Stops

/-- Whether a character is a blank or a tab. -/
def isBlank (c : Char) : Bool :=
  c == ' ' || c == '\t'

/-! ## Blanks for tabs -/

/-- The characters of a line with blanks for tabs, from a column on. -/
def expandOn
    (stops : Stops)
    (isWhole : Bool) :
    Bool -> Nat -> List Char -> List Char
  | _, _, [] => []
  | false, _, chars => chars
  | true, column, c :: rest =>
      let goesOn := isWhole || isBlank c
      if c == '\t' then
        let next := (stops.next? column).getD (column + 1)
        List.replicate (next - column) ' ' ++ expandOn stops isWhole goesOn next rest
      else if c == '\x08' then c :: expandOn stops isWhole goesOn (column - 1) rest
      else c :: expandOn stops isWhole goesOn (column + 1) rest

/-! ## Tabs for blanks -/

/-- Where the replacement of blanks is. -/
structure Place where
  /-- The column of the next character. -/
  column : Nat := 0
  /-- The blanks that may still be replaced. -/
  pending : List Char := []
  /-- Whether the first of them is a blank right before a tab stop. -/
  isLoneBlank : Bool := false
  /-- Whether the last character was a blank. -/
  afterBlank : Bool := true

/-- The blanks that are left, with a tab for the first one if it has to be. -/
def Place.flushed (place : Place) : List Char :=
  match place.pending with
  | _ :: next :: rest => if place.isLoneBlank then '\t' :: next :: rest else place.pending
  | _ => place.pending

/-- The characters of a line with tabs for blanks. -/
def compressOn
    (stops : Stops)
    (isWhole : Bool) :
    Bool -> Place -> List Char -> List Char
  | _, place, [] => place.flushed
  | false, _, chars => chars
  | true, place, c :: rest =>
      let finish (place : Place) (c : Char) (goesOn isSpace : Bool) : List Char :=
        place.flushed ++ c ::
          compressOn stops isWhole (goesOn && (isWhole || isSpace))
            { column := place.column, afterBlank := isSpace } rest
      if isBlank c then
        match stops.next? place.column with
        | none => finish place c false true
        | some next =>
            let kept (pending : List Char) : List Char :=
              if place.isLoneBlank then pending.take 1 else []
            if c == '\t' then
              let pending := if place.pending.isEmpty then [] else '\t' :: place.pending.drop 1
              finish { place with column := next, pending := kept pending } '\t' true true
            else
              let column := place.column + 1
              if place.afterBlank && column = next then
                let pending := '\t' :: place.pending.drop 1
                finish { place with column, pending := kept pending } '\t' true true
              else
                compressOn stops isWhole true
                  { column, pending := place.pending ++ [c]
                    isLoneBlank := place.isLoneBlank || column = next, afterBlank := true } rest
      else if c == '\x08' then finish { place with column := place.column - 1 } c true false
      else finish { place with column := place.column + 1 } c true false

/-- The lines of some texts, each with its end, as if the texts were one. -/
def changeLines (change : List Char -> List Char) (texts : List Octets) : Octets :=
  let (lines, ended) := linesOf (String.join texts)
  let changed := lines.map fun line => String.ofList (change line.toList)
  String.intercalate "\n" changed ++ (if ended && !lines.isEmpty then "\n" else "")

/-- The tab stops that options give. -/
def stopTexts (given : List Given) : List Octets :=
  given.filterMap fun option =>
    if option.letter == 't' then option.argument
    else if option.letter.isDigit then
      some (String.singleton option.letter ++ option.argument.getD "")
    else none

/-- The options with digits. -/
def digitOptions : List (Char × Taking) :=
  "0123456789".toList.map fun digit => (digit, .perhaps)

end Tabs

/-- Print files with blanks for tabs. -/
def expand : Program :=
  withOptions
    { letters := [('i', .nothing), ('t', .something)] ++ Tabs.digitOptions
      words := [("initial", 'i', .nothing), ("tabs", 't', .something)] } 1
    fun launch given operands => do
      match Tabs.Stops.ofTexts (Tabs.stopTexts given) with
      | .error reason => fail launch.name reason 1
      | .ok stops => do
          let (texts, status) ← gather (warnOfFile launch.name) (orInput operands)
          let change := Tabs.expandOn stops (!isGiven given 'i') true 0
          printing launch.name (Tabs.changeLines change texts) status

/-- Print files with tabs for blanks. -/
def unexpand : Program :=
  withOptions
    { letters := [('a', .nothing), ('t', .something)] ++ Tabs.digitOptions
      words :=
        [("all", 'a', .nothing), ("first-only", 'f', .nothing), ("tabs", 't', .something)] } 1
    fun launch given operands => do
      match Tabs.Stops.ofTexts (Tabs.stopTexts given) with
      | .error reason => fail launch.name reason 1
      | .ok stops => do
          let (texts, status) ← gather (warnOfFile launch.name) (orInput operands)
          let isWhole := !isGiven given 'f' && (isGiven given 'a' || isGiven given 't')
          let change := Tabs.compressOn stops isWhole true {}
          printing launch.name (Tabs.changeLines change texts) status

end Programs
end CameraFleet
