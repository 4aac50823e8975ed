import CameraFleet.Programs.Copy

/-!
# Counting

Lines, words and bytes are counted. A word starts with a byte that can be
printed, and a blank ends it.
-/

namespace CameraFleet
namespace Programs

open Host

/-- What is counted of a text. -/
structure Tally where
  /-- The number of line ends. -/
  lines : Nat := 0
  /-- The number of words. -/
  words : Nat := 0
  /-- The number of bytes. -/
  bytes : Nat := 0
  /-- The width of the widest line. -/
  widest : Nat := 0
  /-- The width of the line so far. -/
  width : Nat := 0
  /-- Whether the last byte belongs to a word. -/
  inWord : Bool := false
  deriving Repr, DecidableEq

namespace Tally

/-- The width after a byte. -/
def widthAfter (width byte : Nat) : Nat :=
  if byte == 9 then width + (8 - width % 8)
  else if 32 ≤ byte && byte < 127 then width + 1
  else width

/-- Count a byte. -/
def step (tally : Tally) (byte : UInt8) : Tally :=
  let byte := byte.toNat
  let isBlank := byte == 32 || (9 ≤ byte && byte ≤ 13)
  let starts := 32 < byte && byte < 127
  let endsLine := byte == 10 || byte == 12 || byte == 13
  { lines := if byte == 10 then tally.lines + 1 else tally.lines
    words := if starts && !tally.inWord then tally.words + 1 else tally.words
    bytes := tally.bytes + 1
    widest := if endsLine then max tally.widest tally.width else tally.widest
    width := if endsLine then 0 else widthAfter tally.width byte
    inWord := !isBlank && (starts || tally.inWord) }

/-- The tally of a text whose bytes have all been counted. -/
def close (tally : Tally) : Tally :=
  { tally with widest := max tally.widest tally.width }

/-- The tally of two texts. -/
def add (a b : Tally) : Tally :=
  { lines := a.lines + b.lines, words := a.words + b.words, bytes := a.bytes + b.bytes
    widest := max a.widest b.widest }

/-- The numbers that letters ask for, in the order in which they are shown. -/
def numbers (tally : Tally) (letters : List Char) : List Nat :=
  let shown : List (Char × Nat) :=
    [('l', tally.lines), ('w', tally.words), ('m', tally.bytes), ('c', tally.bytes),
      ('L', tally.widest)]
  (shown.filter fun (letter, _) => letters.contains letter).map (·.2)

end Tally

/-- Count what is read from a descriptor, on top of what has been counted. -/
def countFrom (descriptor : Nat) : Nat -> Tally -> Act (Tally × Option Fault)
  | 0, tally => pure (tally, none)
  | turns + 1, tally => do
      match ← Act.call (.read descriptor block) with
      | .error fault => pure (tally, some fault)
      | .ok bytes =>
          if bytes.isEmpty then pure (tally, none)
          else countFrom descriptor turns (bytes.foldl Tally.step tally)

/-- A line of numbers, filled up to a width, with a title. -/
def countLine
    (width : Nat)
    (numbers : List Nat)
    (title : Option Octets) : Octets :=
  let columns := String.intercalate " " (numbers.map (rightAligned width))
  columns ++ ((title.map (" " ++ ·)).getD "") ++ "\n"

/-- What can be seen of an operand's input. -/
def sightOf (operand : Octets) : Act (Except Fault Sight) :=
  if operand == "-" then Act.call (.lookAt 0) else Act.call (.look operand true)

/-- The width of the numbers for what can be seen of the inputs. -/
def countWidth (sights : List (Except Fault Sight)) : Nat :=
  match sights with
  | .ok _ :: _ =>
      let seen := sights.filterMap Except.toOption
      let sizes := seen.filterMap fun sight =>
        match sight.kind with
        | .entry .file => some sight.size
        | _ => none
      let least := if sizes.length < seen.length then 7 else 1
      max least (toString (sizes.foldl (· + ·) 0)).length
  | _ => 1

/-- Count some inputs one after another. -/
def countEach
    (name : Octets)
    (letters : List Char)
    (width : Nat)
    (titled : Bool) :
    List Octets -> Act (Octets × Tally × Nat)
  | [] => pure ("", {}, 0)
  | operand :: rest => do
      match ← openInput operand with
      | .error fault => do
          warn name s!"{Quoted.wordIfNeeded operand}: {fault.text}"
          let (text, total, _) ← countEach name letters width titled rest
          pure (text, total, 1)
      | .ok descriptor => do
          let (tally, fault?) ← countFrom descriptor manyTurns {}
          closeInput descriptor
          match fault? with
          | some fault => warn name s!"{Quoted.wordIfNeeded operand}: {fault.text}"
          | none => pure ()
          let tally := tally.close
          let title := if titled then some (Quoted.wordIfNeeded operand) else none
          let line := countLine width (tally.numbers letters) title
          let (text, total, status) ← countEach name letters width titled rest
          pure (line ++ text, tally.add total, if fault?.isSome then 1 else status)

/-- Count lines, words and bytes of files. -/
def wc : Program :=
  withOptions
    { letters := ['c', 'm', 'l', 'w', 'L'].map fun letter => (letter, .nothing)
      words :=
        [("bytes", 'c', .nothing), ("chars", 'm', .nothing), ("lines", 'l', .nothing),
          ("words", 'w', .nothing), ("max-line-length", 'L', .nothing)] } 1
    fun launch given operands => do
      let letters := (given.map (·.letter)).eraseDups
      let letters := if letters.isEmpty then ['l', 'w', 'c'] else letters
      let inputs := orInput operands
      let width ←
        if inputs.length == 1 && letters.length == 1 then pure 1
        else do
          pure (countWidth (← inputs.mapM sightOf))
      let (text, total, status) ←
        countEach launch.name letters width (!operands.isEmpty) inputs
      let last :=
        if 1 < inputs.length then countLine width (total.numbers letters) (some "total") else ""
      printing launch.name (text ++ last) status

end Programs
end CameraFleet
