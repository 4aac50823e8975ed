import CameraFleet.Text.CharClass
import CameraFleet.Text.Octets

/-!
# Patterns

A pattern is made of characters, some of them quoted. Outside of quotes a star
matches anything, a question mark any character, and brackets one character of a
set. There may be groups of patterns, of which one, any number or none matches.
-/

namespace CameraFleet
namespace Shell

/-- A character, and whether it was quoted. -/
structure Cell where
  /-- The character. -/
  char : Char
  /-- Whether it stands for itself. -/
  quoted : Bool := false
  deriving Repr, DecidableEq

/-- The characters of some cells. -/
def cellText (cells : List Cell) : Octets :=
  String.ofList (cells.map (·.char))

namespace Pattern

/-- A member of a set in brackets. -/
inductive Member
  /-- The characters between two. -/
  | range (first last : Char)
  /-- A class of characters. -/
  | named (name : String)
  deriving Repr, DecidableEq

/-- How a group of patterns matches. -/
inductive Grouping
  /-- One pattern does once. -/
  | once
  /-- One does, or nothing is there. -/
  | maybe
  /-- They do any number of times. -/
  | many
  /-- They do at least once. -/
  | some
  /-- None of them does. -/
  | never
  deriving Repr, DecidableEq

/-- The grouping that a character before a parenthesis means. -/
def groupingOf? (c : Char) : Option Grouping :=
  [('@', Grouping.once), ('?', .maybe), ('*', .many), ('+', .some), ('!', .never)].lookup c

/-- A piece of a pattern. -/
inductive Piece
  /-- Any characters. -/
  | anything
  /-- Any one character. -/
  | anyOne
  /-- One character. -/
  | one (c : Char)
  /-- One character that is in a set, or is not. -/
  | set (inverted : Bool) (members : List Member)
  /-- A group of patterns. -/
  | group (grouping : Grouping) (choices : List (List Piece))
  deriving Repr

/-- Whether a character is a member. -/
def Member.holds (member : Member) (c : Char) : Bool :=
  match member with
  | .range first last => first ≤ c && c ≤ last
  | .named name => CharClass.holds name c

/-- Whether a cell is this character, with its meaning. -/
def Cell.means (cell : Cell) (c : Char) : Bool :=
  cell.char == c && !cell.quoted

/-- The class that a set names here, and the cells after it. -/
def class? (cells : List Cell) : Option (String × List Cell) :=
  match cells with
  | a :: b :: rest =>
      if Cell.means a '[' && Cell.means b ':' then
        let name := cellText (rest.takeWhile fun cell => cell.char.isAlpha)
        match rest.drop name.length with
        | c :: d :: rest =>
            if Cell.means c ':' && Cell.means d ']' && CharClass.isName name then
              some (name, rest)
            else none
        | _ => none
      else none
  | _ => none

/-- The members of a set up to its closing bracket, and the cells after it. -/
def members : Nat -> Bool -> List Cell -> Option (List Member × List Cell)
  | 0, _, _ => none
  | _ + 1, _, [] => none
  | fuel + 1, first, cell :: rest =>
      if Cell.means cell ']' && !first then some ([], rest)
      else
        match class? (cell :: rest) with
        | some (name, rest) =>
            (members fuel false rest).map fun (others, rest) => (.named name :: others, rest)
        | none =>
            match rest with
            | dash :: last :: after =>
                if Cell.means dash '-' && !Cell.means last ']' then
                  (members fuel false after).map fun (others, rest) =>
                    (.range cell.char last.char :: others, rest)
                else
                  (members fuel false rest).map fun (others, rest) =>
                    (.range cell.char cell.char :: others, rest)
            | _ =>
                (members fuel false rest).map fun (others, rest) =>
                  (.range cell.char cell.char :: others, rest)

/-- The set that starts after an opening bracket, and the cells after it. -/
def set? (cells : List Cell) : Option (Piece × List Cell) :=
  let (inverted, rest) :=
    match cells with
    | first :: rest =>
        if Cell.means first '!' || Cell.means first '^' then (true, rest) else (false, cells)
    | [] => (false, [])
  (members (rest.length + 1) true rest).map fun (found, rest) => (.set inverted found, rest)

/--
The choices of a group up to its closing parenthesis, and the cells after it. The
number says how many parentheses are open within the group.
-/
def choices : Nat -> List Cell -> List Cell -> Option (List (List Cell) × List Cell)
  | _, [], _ => none
  | depth, cell :: rest, taken =>
      if Cell.means cell '(' then choices (depth + 1) rest (cell :: taken)
      else if Cell.means cell ')' then
        match depth with
        | 0 => some ([taken.reverse], rest)
        | depth + 1 => choices depth rest (cell :: taken)
      else if depth = 0 && Cell.means cell '|' then
        (choices 0 rest []).map fun (others, rest) => (taken.reverse :: others, rest)
      else choices depth rest (cell :: taken)

/-- The group that cells start with, and the cells after it. -/
def group? (cells : List Cell) : Option (Grouping × List (List Cell) × List Cell) :=
  match cells with
  | sign :: opening :: rest =>
      if sign.quoted || !Cell.means opening '(' then none
      else
        match groupingOf? sign.char, choices 0 rest [] with
        | some grouping, some (found, rest) => some (grouping, found, rest)
        | _, _ => none
  | _ => none

/-- The pieces of a pattern, which may have groups. -/
def pieces (groups : Bool) : Nat -> List Cell -> List Piece
  | 0, _ => []
  | _ + 1, [] => []
  | fuel + 1, cell :: rest =>
      match if groups then group? (cell :: rest) else none with
      | some (grouping, found, rest) =>
          .group grouping (found.map (pieces groups fuel)) :: pieces groups fuel rest
      | none =>
          if Cell.means cell '*' then .anything :: pieces groups fuel rest
          else if Cell.means cell '?' then .anyOne :: pieces groups fuel rest
          else if Cell.means cell '[' then
            match set? rest with
            | some (piece, rest) => piece :: pieces groups fuel rest
            | none => .one '[' :: pieces groups fuel rest
          else if Cell.means cell '\\' then
            match rest with
            | next :: rest => .one next.char :: pieces groups fuel rest
            | [] => [.one '\\']
          else .one cell.char :: pieces groups fuel rest

/-- The pattern of some cells, which may have groups. -/
def ofGroupedCells (groups : Bool) (cells : List Cell) : List Piece :=
  pieces groups (cells.length + 1) cells

/-- The pattern of some cells. -/
def ofCells (cells : List Cell) : List Piece :=
  ofGroupedCells false cells

/-- Whether a piece matches one character. -/
def Piece.accepts (piece : Piece) (c : Char) : Bool :=
  match piece with
  | .anything | .anyOne => true
  | .one d => c == d
  | .set inverted members => (members.any (·.holds c)) != inverted
  | .group .. => false

/-- Whether a pattern without groups matches some characters. -/
def isSimpleMatch : List Piece -> List Char -> Bool
  | [], chars => chars.isEmpty
  | .anything :: pieces, [] => isSimpleMatch pieces []
  | .anything :: pieces, c :: chars =>
      isSimpleMatch pieces (c :: chars) || isSimpleMatch (.anything :: pieces) chars
  | _ :: _, [] => false
  | piece :: pieces, c :: chars => piece.accepts c && isSimpleMatch pieces chars
  termination_by pieces chars => pieces.length + chars.length

/-- All ends of a text. -/
def ends : List Char -> List (List Char)
  | [] => [[]]
  | c :: rest => (c :: rest) :: ends rest

/-- Some ends of a text, each of which once. -/
def distinct (tails : List (List Char)) : List (List Char) :=
  tails.foldl (fun found tail =>
    if found.any (·.length == tail.length) then found else found ++ [tail]) []

mutual

/-- What may be left of a text after a start that a pattern matches. -/
def rests : Nat -> List Piece -> List Char -> List (List Char)
  | 0, _, _ => []
  | _ + 1, [], chars => [chars]
  | fuel + 1, piece :: others, chars =>
      distinct ((pieceRests fuel piece chars).flatMap (rests fuel others))

/-- What may be left of a text after a start that a piece matches. -/
def pieceRests : Nat -> Piece -> List Char -> List (List Char)
  | 0, _, _ => []
  | fuel + 1, piece, chars =>
      match piece, chars with
      | .anything, _ => ends chars
      | .group grouping found, _ =>
          let once := distinct (found.flatMap fun choice => rests fuel choice chars)
          match grouping with
          | .once => once
          | .maybe => distinct (chars :: once)
          | .some => distinct (once.flatMap (repeated fuel found))
          | .many => repeated fuel found chars
          | .never => (ends chars).filter fun tail => !once.any (·.length == tail.length)
      | piece, c :: tail => if piece.accepts c then [tail] else []
      | _, [] => []

/-- What may be left of a text after any number of matches of some patterns. -/
def repeated : Nat -> List (List Piece) -> List Char -> List (List Char)
  | 0, _, chars => [chars]
  | fuel + 1, found, chars =>
      let shorter := (distinct (found.flatMap fun choice => rests fuel choice chars)).filter
        (·.length < chars.length)
      distinct (chars :: shorter.flatMap (repeated fuel found))

end

/-- Whether a pattern has groups. -/
def hasGroups (pattern : List Piece) : Bool :=
  pattern.any fun piece =>
    match piece with
    | .group .. => true
    | _ => false

/-- How deep the pieces of patterns lie within each other, and more. -/
def groupFuel : Nat := 100000

/-- Whether a pattern matches some characters. -/
def isMatch (pattern : List Piece) (chars : List Char) : Bool :=
  if hasGroups pattern then (rests groupFuel pattern chars).any (·.isEmpty)
  else isSimpleMatch pattern chars

/-- Whether a pattern has a piece that does not stand for one character. -/
def isOpen (pattern : List Piece) : Bool :=
  pattern.any fun piece =>
    match piece with
    | .one _ => false
    | _ => true

/-- What is left of a text without the start that a pattern matches. -/
def trimStart
    (pattern : List Piece)
    (longest : Bool)
    (text : Octets) : Octets :=
  let chars := text.toList
  let places := List.range (chars.length + 1)
  let places := if longest then places.reverse else places
  match places.find? fun place => isMatch pattern (chars.take place) with
  | some place => String.ofList (chars.drop place)
  | none => text

/-- What is left of a text without the end that a pattern matches. -/
def trimEnd
    (pattern : List Piece)
    (longest : Bool)
    (text : Octets) : Octets :=
  let chars := text.toList
  let places := List.range (chars.length + 1)
  let places := if longest then places else places.reverse
  match places.find? fun place => isMatch pattern (chars.drop place) with
  | some place => String.ofList (chars.take place)
  | none => text

end Pattern
end Shell
end CameraFleet
