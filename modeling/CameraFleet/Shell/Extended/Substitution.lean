import CameraFleet.Shell.Pattern
import CameraFleet.Shell.Syntax

/-!
# Substitutions

What becomes of the value of a parameter when a part of it is taken, when
matches of a pattern are replaced in it, or when its letters change.
-/

namespace CameraFleet
namespace Shell
namespace Substitution

/-- A piece of what stands in for a match. -/
inductive Filling
  /-- A character. -/
  | char (c : Char)
  /-- What was matched. -/
  | found
  deriving Repr, DecidableEq

/-- What some cells put in the place of a match. -/
def fillings : List Cell -> List Filling
  | [] => []
  | cell :: rest =>
      if Pattern.Cell.means cell '&' then .found :: fillings rest
      else if Pattern.Cell.means cell '\\' then
        match rest with
        | next :: rest =>
            if !next.quoted && (next.char == '&' || next.char == '\\') then
              .char next.char :: fillings rest
            else .char '\\' :: fillings (next :: rest)
        | [] => [.char '\\']
      else .char cell.char :: fillings rest

/-- What is put in the place of some characters. -/
def filled (fillings : List Filling) (found : List Char) : List Char :=
  fillings.flatMap fun filling =>
    match filling with
    | .char c => [c]
    | .found => found

/-- How many characters a pattern matches at the start of some, at most. -/
def longest? (pattern : List Pattern.Piece) (chars : List Char) : Option Nat :=
  ((List.range (chars.length + 1)).reverse).find? fun count =>
    Pattern.isMatch pattern (chars.take count)

/-- Characters in which matches of a pattern are replaced, from the left. -/
def replaceFrom
    (pattern : List Pattern.Piece)
    (fillings : List Filling)
    (every : Bool) : Nat -> List Char -> List Char
  | 0, chars => chars
  | fuel + 1, chars =>
      match longest? pattern chars, chars with
      | some 0, [] => filled fillings []
      | some 0, c :: rest =>
          let start := filled fillings []
          start ++ (if every then c :: replaceFrom pattern fillings every fuel rest else chars)
      | some count, _ =>
          let rest := chars.drop count
          let start := filled fillings (chars.take count)
          if every && !rest.isEmpty then
            start ++ replaceFrom pattern fillings every fuel rest
          else start ++ rest
      | none, c :: rest => c :: replaceFrom pattern fillings every fuel rest
      | none, [] => []

/-- A text in which matches of a pattern are replaced. -/
def replace
    (which : Matches)
    (pattern : List Pattern.Piece)
    (fillings : List Filling)
    (text : Octets) : Octets :=
  let chars := text.toList
  let fuel := chars.length + 1
  let result :=
    match which with
    | .first =>
        if pattern.isEmpty then chars else replaceFrom pattern fillings false fuel chars
    | .every =>
        if pattern.isEmpty then chars else replaceFrom pattern fillings true fuel chars
    | .atStart =>
        match longest? pattern chars with
        | some count => filled fillings (chars.take count) ++ chars.drop count
        | none => chars
    | .atEnd =>
        let start? := (List.range (chars.length + 1)).find? fun start =>
          Pattern.isMatch pattern (chars.drop start)
        match start? with
        | some start => chars.take start ++ filled fillings (chars.drop start)
        | none => chars
  String.ofList result

/-- A letter that is changed. -/
def changed (casing : Casing) (c : Char) : Char :=
  match casing with
  | .upper => c.toUpper
  | .lower => c.toLower
  | .toggled => if c.isUpper then c.toLower else c.toUpper

/-- A text whose letters are changed where a pattern matches them. -/
def recase
    (casing : Casing)
    (every : Bool)
    (pattern : Option (List Pattern.Piece))
    (text : Octets) : Octets :=
  let change (c : Char) : Char :=
    if pattern.all fun pattern => Pattern.isMatch pattern [c] then changed casing c else c
  match text.toList with
  | [] => ""
  | c :: rest => String.ofList (change c :: (if every then rest.map change else rest))

/--
Where a part of so many things starts and ends; none if it would end before it
starts, which is an error if its length was given.
-/
def bounds? (count : Nat) (start : Int) (length : Option Int) : Except Int (Nat × Nat) :=
  let first := if start < 0 then start + count else start
  if first < 0 || count < first then .ok (0, 0)
  else
    match length with
    | none => .ok (first.toNat, count)
    | some length =>
        if length < 0 then
          let last := length + count
          if last < first then .error length else .ok (first.toNat, last.toNat)
        else .ok (first.toNat, min count (first + length).toNat)

/-- A part of a list. -/
def part (bounds : Nat × Nat) (items : List α) : List α :=
  (items.take bounds.2).drop bounds.1

end Substitution
end Shell
end CameraFleet
