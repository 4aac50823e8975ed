import CameraFleet.Text.Octets
import Std.Data.HashMap

/-!
# Aligning lines

Two lists of lines are aligned so that as many lines as possible stand in both in
the same order. The search goes from both ends, and where the two ways meet the
lists are cut in two. Of several equally good alignments that one is taken in
which runs of other lines lie as far down as possible, or beside each other.
-/

namespace CameraFleet
namespace Alignment

/-! ## Finding the middle -/

/-- A part of two lists: where it starts and stops in each. -/
structure Box where
  /-- Where it starts in the first list. -/
  left : Int
  /-- Where it stops in the first list. -/
  right : Int
  /-- Where it starts in the second list. -/
  top : Int
  /-- Where it stops in the second list. -/
  bottom : Int
  deriving Repr, DecidableEq

/-- Two lists whose elements are numbers. -/
structure Pair where
  /-- The first list. -/
  first : Array Nat
  /-- The second list. -/
  second : Array Nat
  deriving Repr, DecidableEq

/-- Whether an element of the first list and one of the second list are the same. -/
def Pair.same
    (pair : Pair)
    (x y : Int) : Bool :=
  match pair.first[x.toNat]?, pair.second[y.toNat]? with
  | some a, some b => a == b
  | _, _ => false

/-- How far both lists are the same from two places on; the number bounds the steps. -/
def slideDown
    (pair : Pair)
    (box : Box) : Nat -> Int -> Int -> Int
  | 0, x, _ => x
  | fuel + 1, x, y =>
      if x < box.right && y < box.bottom && pair.same x y then
        slideDown pair box fuel (x + 1) (y + 1)
      else x

/-- How far both lists are the same before two places; the number bounds the steps. -/
def slideUp
    (pair : Pair)
    (box : Box) : Nat -> Int -> Int -> Int
  | 0, x, _ => x
  | fuel + 1, x, y =>
      if box.left < x && box.top < y && pair.same (x - 1) (y - 1) then
        slideUp pair box fuel (x - 1) (y - 1)
      else x

/-- The furthest places on the diagonals, from both ends. -/
structure Search where
  /-- The places that are reached from the start. -/
  down : Array Int
  /-- The places that are reached from the end. -/
  up : Array Int
  /-- The least diagonal from the start. -/
  downLeast : Int
  /-- The greatest diagonal from the start. -/
  downMost : Int
  /-- The least diagonal from the end. -/
  upLeast : Int
  /-- The greatest diagonal from the end. -/
  upMost : Int

/-- A place that is beyond all others. -/
def beyond : Int := 1000000000000

/-- The index of a diagonal. -/
def indexOf (pair : Pair) (diagonal : Int) : Nat :=
  (diagonal + pair.second.size + 2).toNat

/-- The place on a diagonal. -/
def placeOn
    (pair : Pair)
    (places : Array Int)
    (diagonal : Int) : Int :=
  places.getD (indexOf pair diagonal) 0

/-- Note the place on a diagonal. -/
def noting
    (pair : Pair)
    (places : Array Int)
    (diagonal place : Int) : Array Int :=
  places.setIfInBounds (indexOf pair diagonal) place

/-- A bound for the steps on a diagonal. -/
def mostSteps (pair : Pair) : Nat :=
  pair.first.size + pair.second.size + 2

/-- Go a step further from the start on each diagonal; the result may be where both ways meet. -/
def goDown
    (pair : Pair)
    (box : Box)
    (isOdd : Bool) : Nat -> Int -> Search -> Except (Int × Int) Search
  | 0, _, search => .ok search
  | fuel + 1, diagonal, search =>
      if diagonal < search.downLeast then .ok search
      else
        let low := placeOn pair search.down (diagonal - 1)
        let high := placeOn pair search.down (diagonal + 1)
        let start := if low < high then high else low + 1
        let x := slideDown pair box (mostSteps pair) start (start - diagonal)
        let isMet := isOdd && search.upLeast ≤ diagonal && diagonal ≤ search.upMost &&
          placeOn pair search.up diagonal ≤ x
        if isMet then .error (x, x - diagonal)
        else
          goDown pair box isOdd fuel (diagonal - 2)
            { search with down := noting pair search.down diagonal x }

/-- Go a step further from the end on each diagonal; the result may be where both ways meet. -/
def goUp
    (pair : Pair)
    (box : Box)
    (isOdd : Bool) : Nat -> Int -> Search -> Except (Int × Int) Search
  | 0, _, search => .ok search
  | fuel + 1, diagonal, search =>
      if diagonal < search.upLeast then .ok search
      else
        let low := placeOn pair search.up (diagonal - 1)
        let high := placeOn pair search.up (diagonal + 1)
        let start := if low < high then low else high - 1
        let x := slideUp pair box (mostSteps pair) start (start - diagonal)
        let isMet := !isOdd && search.downLeast ≤ diagonal && diagonal ≤ search.downMost &&
          x ≤ placeOn pair search.down diagonal
        if isMet then .error (x, x - diagonal)
        else
          goUp pair box isOdd fuel (diagonal - 2)
            { search with up := noting pair search.up diagonal x }

/-- Have one more diagonal on both sides from the start, as far as there are any. -/
def widenDown
    (pair : Pair)
    (box : Box)
    (search : Search) : Search :=
  let search :=
    if box.left - box.bottom < search.downLeast then
      let least := search.downLeast - 1
      { search with downLeast := least, down := noting pair search.down (least - 1) (-1) }
    else { search with downLeast := search.downLeast + 1 }
  if search.downMost < box.right - box.top then
    let most := search.downMost + 1
    { search with downMost := most, down := noting pair search.down (most + 1) (-1) }
  else { search with downMost := search.downMost - 1 }

/-- Have one more diagonal on both sides from the end, as far as there are any. -/
def widenUp
    (pair : Pair)
    (box : Box)
    (search : Search) : Search :=
  let search :=
    if box.left - box.bottom < search.upLeast then
      let least := search.upLeast - 1
      { search with upLeast := least, up := noting pair search.up (least - 1) beyond }
    else { search with upLeast := search.upLeast + 1 }
  if search.upMost < box.right - box.top then
    let most := search.upMost + 1
    { search with upMost := most, up := noting pair search.up (most + 1) beyond }
  else { search with upMost := search.upMost - 1 }

/-- Where the ways from both ends meet; the number bounds the steps. -/
def meet
    (pair : Pair)
    (box : Box)
    (isOdd : Bool) : Nat -> Search -> Int × Int
  | 0, _ => (box.right, box.bottom)
  | fuel + 1, search =>
      let search := widenDown pair box search
      match goDown pair box isOdd (mostSteps pair) search.downMost search with
      | .error place => place
      | .ok search =>
          let search := widenUp pair box search
          match goUp pair box isOdd (mostSteps pair) search.upMost search with
          | .error place => place
          | .ok search => meet pair box isOdd fuel search

/-- Where a part is cut in two. -/
def middle (pair : Pair) (box : Box) : Int × Int :=
  let start := box.left - box.top
  let stop := box.right - box.bottom
  let empty : Array Int := Array.replicate (pair.first.size + pair.second.size + 5) 0
  let search : Search :=
    { down := noting pair empty start box.left, up := noting pair empty stop box.right
      downLeast := start, downMost := start, upLeast := stop, upMost := stop }
  meet pair box ((start - stop) % 2 != 0) (mostSteps pair) search

/-- The numbers from one on up to another one. -/
def span (start stop : Int) : List Nat :=
  (List.range (stop - start).toNat).map fun step => (start.toNat + step)

/--
The places in both lists of what is in one of them only, within a part; the
number bounds the cuts.
-/
def differing (pair : Pair) : Nat -> Box -> List Nat × List Nat
  | 0, box => (span box.left box.right, span box.top box.bottom)
  | fuel + 1, box =>
      let left := slideDown pair box (mostSteps pair) box.left box.top
      let box := { box with left, top := box.top + (left - box.left) }
      let right := slideUp pair box (mostSteps pair) box.right box.bottom
      let box := { box with right, bottom := box.bottom - (box.right - right) }
      if box.left = box.right then ([], span box.top box.bottom)
      else if box.top = box.bottom then (span box.left box.right, [])
      else
        let (x, y) := middle pair box
        let (firsts, seconds) := differing pair fuel { box with right := x, bottom := y }
        let (others, further) := differing pair fuel { box with left := x, top := y }
        (firsts ++ others, seconds ++ further)

/-! ## Moving runs -/

/-- Whether there is a mark at a place. -/
def isMarked (marks : Array Bool) (place : Int) : Bool :=
  0 ≤ place && marks.getD place.toNat false

/-- Set or take away the mark at a place. -/
def mark
    (marks : Array Bool)
    (place : Int)
    (value : Bool) : Array Bool :=
  marks.setIfInBounds place.toNat value

/-- The first place from one on without a mark; the number bounds the steps. -/
def skipMarks (marks : Array Bool) : Nat -> Int -> Int
  | 0, place => place
  | fuel + 1, place => if isMarked marks place then skipMarks marks fuel (place + 1) else place

/-- The first place before one without a mark; the number bounds the steps. -/
def backOver (marks : Array Bool) : Nat -> Int -> Int
  | 0, place => place
  | fuel + 1, place =>
      if isMarked marks (place - 1) then backOver marks fuel (place - 1) else place - 1

/-- A run of marks that is moved. -/
structure Run where
  /-- The marks of the list in which it is. -/
  marks : Array Bool
  /-- Where it starts. -/
  start : Int
  /-- Where it stops. -/
  stop : Int
  /-- The place in the other list that belongs to it. -/
  other : Int
  /-- The last stop at which there is a run in the other list beside it, if there is one. -/
  beside : Option Int := none

namespace Run

/-- A bound for the steps. -/
def fuelFor (run : Run) (others : Array Bool) : Nat :=
  run.marks.size + others.size + 4

/-- Move a run up as far as possible; the number bounds the steps. -/
def moveUp
    (lines : Array Nat)
    (others : Array Bool) : Nat -> Run -> Run
  | 0, run => run
  | fuel + 1, run =>
      let isFree := 0 < run.start &&
        lines.getD (run.start - 1).toNat 0 == lines.getD (run.stop - 1).toNat 0
      if isFree then
        let steps := run.fuelFor others
        let marks := mark (mark run.marks (run.start - 1) true) (run.stop - 1) false
        let before := backOver marks steps (run.start - 1) + 1
        moveUp lines others fuel
          { run with
            marks, start := before, stop := run.stop - 1, other := backOver others steps run.other }
      else run

/-- Go down in the other list by one, and over the marks after it. -/
def passOthers (others : Array Bool) : Nat -> Run -> Run
  | 0, run => run
  | fuel + 1, run =>
      let other := run.other + 1
      if isMarked others other then
        passOthers others fuel { run with other, beside := some run.stop }
      else { run with other }

/-- Move a run down as far as possible; the number bounds the steps. -/
def moveDown
    (lines : Array Nat)
    (others : Array Bool) : Nat -> Run -> Run
  | 0, run => run
  | fuel + 1, run =>
      let isFree := run.stop < lines.size &&
        lines.getD run.start.toNat 0 == lines.getD run.stop.toNat 0
      if isFree then
        let steps := run.fuelFor others
        let marks := mark (mark run.marks run.start false) run.stop true
        let stop := skipMarks marks steps (run.stop + 1)
        moveDown lines others fuel
          (passOthers others steps { run with marks, start := run.start + 1, stop })
      else run

/-- Move a run up and down until it does not grow any more; the number bounds the turns. -/
def settle
    (lines : Array Nat)
    (others : Array Bool) : Nat -> Run -> Run
  | 0, run => run
  | fuel + 1, run =>
      let length := run.stop - run.start
      let steps := run.fuelFor others
      let raised := moveUp lines others steps run
      let beside := if isMarked others (raised.other - 1) then some raised.stop else none
      let lowered := moveDown lines others steps { raised with beside }
      if lowered.stop - lowered.start = length then lowered else settle lines others fuel lowered

/-- Move a run up to where there is one beside it; the number bounds the steps. -/
def align (others : Array Bool) (goal : Int) : Nat -> Run -> Run
  | 0, run => run
  | fuel + 1, run =>
      if goal < run.stop then
        let marks := mark (mark run.marks (run.start - 1) true) (run.stop - 1) false
        align others goal fuel
          { run with
            marks, start := run.start - 1, stop := run.stop - 1
            other := backOver others (run.fuelFor others) run.other }
      else run

end Run

/-- Move the runs of marks in a list from a place on; the number bounds them. -/
def shiftFrom
    (lines : Array Nat)
    (others : Array Bool) : Nat -> Array Bool -> Int -> Int -> Array Bool
  | 0, marks, _, _ => marks
  | fuel + 1, marks, place, other =>
      let steps := marks.size + others.size + 4
      if (lines.size : Int) ≤ place then marks
      else if !isMarked marks place then
        shiftFrom lines others fuel marks (place + 1) (skipMarks others steps other + 1)
      else
        let stop := skipMarks marks steps (place + 1)
        let run : Run := { marks, start := place, stop, other := skipMarks others steps other }
        let settled := run.settle lines others steps
        let aligned :=
          match settled.beside with
          | some goal => settled.align others goal steps
          | none => settled
        shiftFrom lines others fuel aligned.marks aligned.stop aligned.other

/-- Move the runs of marks in a list. -/
def shifted
    (lines : Array Nat)
    (marks others : Array Bool) : Array Bool :=
  shiftFrom lines others (2 * marks.size + 2) marks 0 0

/-! ## Lists of lines -/

/-- What is in one list only: a mark for each line of both. -/
structure Marks where
  /-- The marks of the first list. -/
  first : Array Bool
  /-- The marks of the second list. -/
  second : Array Bool
  deriving Repr, DecidableEq

/-- Give the same number to the same lines. -/
def numbered (lines : List String) (known : Std.HashMap String Nat) :
    Array Nat × Std.HashMap String Nat :=
  lines.foldl (fun (numbers, known) line =>
    match known[line]? with
    | some n => (numbers.push n, known)
    | none => (numbers.push known.size, known.insert line known.size)) (#[], known)

/-- The places of the lines that also are in another list. -/
def shared (lines others : Array Nat) : Array Nat :=
  let found := others.foldl (fun (found : Std.HashMap Nat Unit) n => found.insert n ()) {}
  (Array.range lines.size).filter fun place => found.contains (lines.getD place 0)

/-- The number of lines that two lists have in common at their start. -/
def commonStart : List String -> List String -> Nat
  | a :: first, b :: second => if a == b then commonStart first second + 1 else 0
  | _, _ => 0

/-- Align two lists of lines, all of which count. -/
def alignAll (first second : List String) : Marks :=
  let (a, known) := numbered first {}
  let (b, _) := numbered second known
  let places := shared a b
  let further := shared b a
  let pair : Pair :=
    { first := places.map fun place => a.getD place 0
      second := further.map fun place => b.getD place 0 }
  let box : Box := { left := 0, right := places.size, top := 0, bottom := further.size }
  let (deleted, inserted) := differing pair (mostSteps pair) box
  let all (size : Nat) (kept : Array Nat) (gone : List Nat) : Array Bool :=
    let absent := kept.foldl (fun marks place => marks.setIfInBounds place false)
      (Array.replicate size true)
    gone.foldl (fun marks i => marks.setIfInBounds (kept.getD i size) true) absent
  let x := all a.size places deleted
  let y := all b.size further inserted
  let x := shifted a x y
  let y := shifted b y x
  { first := x, second := y }

/--
Align two lists of lines. What they have in common at their ends does not take
part, but for so many lines.
-/
def align (margin : Nat) (first second : List String) : Marks :=
  let before := commonStart first second
  let restA := first.drop before
  let restB := second.drop before
  let after := commonStart restA.reverse restB.reverse
  let before := before - margin
  let after := after - margin
  let inner (lines : List String) : List String := (lines.take (lines.length - after)).drop before
  let marks := alignAll (inner first) (inner second)
  let outer (marks : Array Bool) : Array Bool :=
    Array.replicate before false ++ marks ++ Array.replicate after false
  { first := outer marks.first, second := outer marks.second }

/-- A change: lines of the first list give way to lines of the second one. -/
structure Change where
  /-- Where the lines of the first list start. -/
  oldStart : Nat
  /-- How many lines of the first list there are. -/
  oldCount : Nat
  /-- Where the lines of the second list start. -/
  newStart : Nat
  /-- How many lines of the second list there are. -/
  newCount : Nat
  deriving Repr, DecidableEq

/-- The number of marks from a place on. -/
def runLength (marks : Array Bool) (place : Nat) : Nat :=
  (skipMarks marks (marks.size + 1) place).toNat - place

/-- The changes from two places on; the number bounds the lines. -/
def changesFrom (marks : Marks) : Nat -> Nat -> Nat -> List Change
  | 0, _, _ => []
  | fuel + 1, i, j =>
      if marks.first.size ≤ i && marks.second.size ≤ j then []
      else
        let oldCount := runLength marks.first i
        let newCount := runLength marks.second j
        let rest := changesFrom marks fuel (i + oldCount + 1) (j + newCount + 1)
        if oldCount = 0 && newCount = 0 then rest
        else { oldStart := i, oldCount, newStart := j, newCount } :: rest

/-- The changes that lead from one list of lines to another one, with a margin at both ends. -/
def changes (margin : Nat) (first second : List String) : List Change :=
  let marks := align margin first second
  changesFrom marks (first.length + second.length + 2) 0 0

end Alignment
end CameraFleet
