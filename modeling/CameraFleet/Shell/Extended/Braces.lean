import CameraFleet.Programs.Basic
import CameraFleet.Shell.Token

/-!
# Braces

In the extended language a word with braces may stand for several words: one for
each of the texts that commas separate in the braces, or for each member of a
sequence.
-/

namespace CameraFleet
namespace Shell
namespace Braces

/-- A piece of a word. -/
inductive Piece
  /-- A character outside of quotes. -/
  | char (c : Char)
  /-- Something that braces do not look into. -/
  | part (part : Part)

/-- Whether a piece is this character. -/
def Piece.isChar (piece : Piece) (c : Char) : Bool :=
  match piece with
  | .char d => c == d
  | .part _ => false

/-- The pieces of a word. -/
def pieces (word : Word) : List Piece :=
  word.flatMap fun part =>
    match part with
    | .text text false => text.toList.map .char
    | part => [.part part]

/-- The word that some pieces make up. -/
def word (pieces : List Piece) : Word :=
  mergeText (pieces.map fun piece =>
    match piece with
    | .char c => .text (String.singleton c) false
    | .part part => part)

/-- Whether two dots come first that do not end the braces. -/
def startsDots (pieces : List Piece) : Bool :=
  match pieces with
  | a :: b :: c :: _ => a.isChar '.' && b.isChar '.' && !c.isChar '\x7d'
  | _ => false

/--
The pieces up to the brace that closes one, if something separates them, and
those after it. The number says how many braces are open within.
-/
def inner? : Nat -> Bool -> List Piece -> List Piece -> Option (List Piece × List Piece)
  | _, _, [], _ => none
  | depth, separated, piece :: rest, taken =>
      let dots := depth = 0 && startsDots (piece :: rest)
      if piece.isChar '\x7d' then
        match depth with
        | 0 =>
            if separated then some (taken.reverse, rest)
            else inner? 0 separated rest (piece :: taken)
        | depth + 1 => inner? depth separated rest (piece :: taken)
      else if piece.isChar '\x7b' then inner? (depth + 1) separated rest (piece :: taken)
      else inner? depth (separated || dots || (depth = 0 && piece.isChar ',')) rest (piece :: taken)

/-- The pieces before the first braces, those in them, and those after them. -/
def split? :
    List Piece -> List Piece -> Option (List Piece × List Piece × List Piece)
  | [], _ => none
  | piece :: rest, before =>
      let isEmpty := before.isEmpty && rest.head?.any (·.isChar '\x7d')
      if piece.isChar '\x7b' && !isEmpty then
        match inner? 0 false rest [] with
        | some (inner, after) => some (before.reverse, inner, after)
        | none => split? rest (piece :: before)
      else split? rest (piece :: before)

/-- The pieces between the commas that no braces hold together. -/
def choices : Nat -> List Piece -> List Piece -> List (List Piece)
  | _, [], taken => [taken.reverse]
  | depth, piece :: rest, taken =>
      if depth = 0 && piece.isChar ',' then taken.reverse :: choices 0 rest []
      else if piece.isChar '\x7b' then choices (depth + 1) rest (piece :: taken)
      else if piece.isChar '\x7d' then choices (depth - 1) rest (piece :: taken)
      else choices depth rest (piece :: taken)

/-- The characters of pieces that are nothing else. -/
def chars? (pieces : List Piece) : Option (List Char) :=
  pieces.mapM fun piece =>
    match piece with
    | .char c => some c
    | .part _ => none

/-- The characters before two dots and those after them. -/
def splitDots : List Char -> List Char -> Option (List Char × List Char)
  | '.' :: '.' :: rest, taken => some (taken.reverse, rest)
  | c :: rest, taken => splitDots rest (c :: taken)
  | [], _ => none

/-- The number that characters give with a sign. -/
def integer? (chars : List Char) : Option Int :=
  let (negative, digits) :=
    match chars with
    | '-' :: rest => (true, rest)
    | '+' :: rest => (false, rest)
    | rest => (false, rest)
  (Programs.natural? (String.ofList digits)).map fun n =>
    if negative then -(n : Int) else (n : Int)

/-- Whether a number is written with a zero before it. -/
def isPadded (chars : List Char) : Bool :=
  match chars with
  | '0' :: _ :: _ | '-' :: '0' :: _ :: _ => true
  | _ => false

/-- A number of some width, with zeros before it. -/
def padded (width : Nat) (n : Int) : List Char :=
  let digits := (toString n.natAbs).toList
  let sign := if n < 0 then ['-'] else []
  sign ++ List.replicate (width - sign.length - digits.length) '0' ++ digits

/-- The numbers from one to another in steps. -/
def numbers (first last step : Int) : List Int :=
  let size := if step = 0 then 1 else step.natAbs
  let count := (last - first).natAbs / size
  let signed : Int := if first ≤ last then size else -(size : Int)
  (List.range (count + 1)).map fun (place : Nat) => first + signed * (place : Int)

/-- The greatest number of members of a sequence that is written out. -/
def longestSequence : Nat := 1000000

/-- The members of a sequence. -/
def sequence? (chars : List Char) : Option (List (List Char)) := do
  let (first, rest) ← splitDots chars []
  let (last, step) ←
    match splitDots rest [] with
    | some (last, step) => (integer? step).map fun step => (last, step)
    | none => some (rest, 1)
  match first, last with
  | [a], [b] =>
      if a.isAlpha && b.isAlpha then
        some ((numbers a.toNat b.toNat step).map fun n => [Char.ofNat n.toNat])
      else do
        let from' ← integer? first
        let upTo ← integer? last
        some ((numbers from' upTo step).map (padded 0))
  | _, _ => do
      let from' ← integer? first
      let upTo ← integer? last
      let width :=
        if isPadded first || isPadded last then max first.length last.length else 0
      if longestSequence < (upTo - from').natAbs then none
      else some ((numbers from' upTo step).map (padded width))

/-- The words that some pieces stand for; the number bounds the steps. -/
def expandPieces : Nat -> List Piece -> List (List Piece)
  | 0, pieces => [pieces]
  | fuel + 1, pieces =>
      match split? pieces [] with
      | none => [pieces]
      | some (before, inner, after) =>
          let found : List (List Piece) :=
            match choices 0 inner [] with
            | [_] =>
                match (chars? inner).bind sequence? with
                | some members => members.map fun member => member.map .char
                | none => [.char '\x7b' :: inner ++ [.char '\x7d']]
            | several => several.flatMap (expandPieces fuel)
          let ends := expandPieces fuel after
          found.flatMap fun middle => ends.map fun last => before ++ middle ++ last

/-- The words that a word with braces stands for. -/
def expand (given : Word) : List Word :=
  let found := pieces given
  if found.any (·.isChar '\x7b') then (expandPieces (found.length + 1) found).map word
  else [given]

end Braces
end Shell
end CameraFleet
