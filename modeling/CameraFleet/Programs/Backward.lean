import CameraFleet.Programs.Copy
import CameraFleet.Text.Regex.Reader

/-!
# Files backwards

The parts of files between separators, usually lines, are printed in reverse
order. A separator belongs to the part before it or to the part after it.
Separators are sought from the end on.
-/

namespace CameraFleet
namespace Programs

open Host

namespace Backward

/-- What separates parts. -/
inductive Separator
  /-- A text. -/
  | text (chars : List Char)
  /-- Whatever is matched. -/
  | matching (regex : Regex)

/-- Where a separator that starts at a place ends, if there is one before a bound. -/
def Separator.stopAt?
    (separator : Separator)
    (chars : Array Char)
    (stop start : Nat) : Option Nat :=
  match separator with
  | .text sought =>
      let found := (chars.extract start (min stop (start + sought.length))).toList
      if found == sought then some (start + sought.length) else none
  | .matching regex =>
      (regex.matchAt? { chars := chars.extract 0 stop } start).map (·.stop)

/-- The places of separators from the end on: where each starts and ends. -/
def places
    (separator : Separator)
    (chars : Array Char) : Nat -> Nat -> List (Nat × Nat)
  | 0, _ => []
  | start + 1, stop =>
      match separator.stopAt? chars stop start with
      | some found => (start, found) :: places separator chars start start
      | none => places separator chars start stop

/-- The parts of a text from the end on; the flag says whether separators start them. -/
def turned
    (separator : Separator)
    (isBefore : Bool)
    (text : Octets) : Octets :=
  let chars := text.toList.toArray
  let found := places separator chars chars.size chars.size
  let cuts := found.map fun (start, stop) => if isBefore then start else stop
  let starts := cuts ++ [0]
  let stops := chars.size :: cuts
  let parts := (starts.zip stops).map fun (start, stop) =>
    String.ofList (chars.extract start stop).toList
  String.join parts

/-- The separator that options give, or what is wrong with it. -/
def separatorOf (given : List Given) : Except Octets Separator :=
  let text := (argumentOf? given 's').getD "\n"
  if isGiven given 'r' then
    if text.isEmpty then .error "separator cannot be empty"
    else
      match Regex.read {} text with
      | .ok regex => .ok (.matching regex)
      | .error mistake => .error mistake.text
  else .ok (.text (if text.isEmpty then ['\x00'] else text.toList))

end Backward

/-- Print the parts of files, usually lines, in reverse order. -/
def tac : Program :=
  withOptions
    { letters := [('b', .nothing), ('r', .nothing), ('s', .something)]
      words :=
        [("before", 'b', .nothing), ("regex", 'r', .nothing), ("separator", 's', .something)] } 1
    fun launch given operands => do
      match Backward.separatorOf given with
      | .error reason => fail launch.name reason 1
      | .ok separator => do
          let complain (operand : Octets) (fault : Fault) : Act Unit :=
            if fault == .isDirectory then
              warn launch.name s!"{Quoted.wordIfNeeded operand}: read error: {Fault.invalid.text}"
            else
              warn launch.name
                s!"failed to open {Quoted.word operand} for reading: {fault.text}"
          let (texts, status) ← gather complain (orInput operands)
          let turned := texts.map (Backward.turned separator (isGiven given 'b'))
          printing launch.name (String.join turned) status

end Programs
end CameraFleet
