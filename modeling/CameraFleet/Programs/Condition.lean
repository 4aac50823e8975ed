import CameraFleet.Programs.Basic

/-!
# Conditions

A condition is written as a list of arguments: texts are compared, numbers are
compared, and files are looked at. Two readers of such lists are known: that of
the program, and that of the shell's own command. They agree on what the
conditions mean, but not on what is wrong with a list.
-/

namespace CameraFleet
namespace Programs

open Host

namespace Condition

/-- Whether what a letter asks for holds of what can be seen at a path. -/
def fileHolds (letter : Char) (sight : Sight) : Bool :=
  match letter, sight.kind with
  | 'f', .entry .file | 'f', .entry .program => true
  | 'd', .entry .directory => true
  | 'c', .entry (.device _) | 'c', .entry .unavailable => true
  | 'p', .pipe | 'p', .entry .fifo => true
  | 'S', .connection => true
  | 'h', .entry (.link _) | 'L', .entry (.link _) => true
  | 's', _ => 0 < sight.size
  | 'x', .entry .directory => true
  | 'x', .entry .unavailable | 'x', .entry (.device _) => false
  | 'x', _ => sight.isRunnable
  | 'k', _ => sight.rights &&& 512 != 0
  | 'u', _ => sight.rights &&& 2048 != 0
  | 'g', _ => sight.rights &&& 1024 != 0
  | 'e', _ | 'r', _ | 'w', _ | 'O', _ | 'G', _ => true
  | _, _ => false

/-- Whether what a letter asks for holds of the file at a path. -/
def fileTest (letter : Char) (path : Octets) : Act Bool := do
  match ← Act.call (.look path (letter != 'h' && letter != 'L')) with
  | .ok sight => pure (fileHolds letter sight)
  | .error _ => pure false

/-- Compare the files at two paths. -/
def fileComparison (operator first second : Octets) : Act Bool := do
  let a := (← Act.call (.look first true)).toOption
  let b := (← Act.call (.look second true)).toOption
  match operator, a, b with
  | "-ef", some a, some b => pure (a == b)
  | "-nt", some a, some b => pure (b.changed < a.changed)
  | "-nt", some _, none | "-ot", none, some _ => pure true
  | "-ot", some a, some b => pure (a.changed < b.changed)
  | _, _, _ => pure false

/-- The operators that compare numbers. -/
def numeric? (operator : Octets) : Option (Int -> Int -> Bool) :=
  match operator with
  | "-eq" => some fun a b => a == b
  | "-ne" => some fun a b => a != b
  | "-lt" => some fun a b => decide (a < b)
  | "-le" => some fun a b => decide (a ≤ b)
  | "-gt" => some fun a b => decide (b < a)
  | "-ge" => some fun a b => decide (b ≤ a)
  | _ => none

/-- The operators that compare texts. -/
def textual? (operator : Octets) : Option (Octets -> Octets -> Bool) :=
  match operator with
  | "=" => some fun a b => a == b
  | "!=" => some fun a b => a != b
  | "<" => some fun a b => decide (a < b)
  | ">" => some fun a b => decide (b < a)
  | _ => none

/-- Whether an operator compares files. -/
def comparesFiles (operator : Octets) : Bool :=
  ["-nt", "-ot", "-ef"].contains operator

/-- What reading a list comes to: a truth value, or what is wrong with the list. -/
abbrev Reading := ExceptT Octets (StateT Nat Act)

/-- How a list is read. -/
structure Reader where
  /-- The arguments. -/
  args : Array Octets

/-- The argument at a place. -/
def Reader.at? (reader : Reader) (place : Nat) : Option Octets :=
  reader.args[place]?

/-- Go on to the next argument. -/
def advance : Reading Unit :=
  modify (· + 1)

/-- Ask the host about something. -/
def ask (act : Act α) : Reading α :=
  ExceptT.lift (StateT.lift act)

/-! ## The reader of the program -/

/-- An argument is missing. -/
def Reader.beyond (reader : Reader) : Reading α :=
  throw ("missing argument after " ++ Quoted.plain (reader.args.back?.getD ""))

/-- The argument at the place where reading is, which must be there. -/
def Reader.current (reader : Reader) : Reading Octets := do
  match reader.at? (← get) with
  | some arg => pure arg
  | none => reader.beyond

/-- Go on to the next argument, which must be there. -/
def Reader.advanceTo (reader : Reader) : Reading Unit := do
  advance
  let _ ← reader.current

/-- Whether an argument is an operator of two operands. -/
def isBinary (arg : Octets) : Bool :=
  (numeric? arg).isSome || (textual? arg).isSome || comparesFiles arg || arg == "=="

/-- Whether an argument is a hyphen with one letter. -/
def isSwitch (arg : Octets) : Bool :=
  match arg.toList with
  | ['-', _] => true
  | _ => false

/-- A whole number with blanks around it. -/
def number (text : Octets) : Reading Int := do
  let isBlank (c : Char) : Bool := c == ' ' || c == '\t'
  let chars := (text.toList.dropWhile isBlank).reverse.dropWhile isBlank
  match integer? (String.ofList chars.reverse) with
  | some n => pure n
  | none => throw s!"invalid integer {Quoted.plain text}"

/-- The operand of `-l`, if the first operand of an operator starts like that. -/
def lengthText (text : Octets) : Octets :=
  toString text.length

/-- An operator with two operands; the first one may be meant by its length. -/
def Reader.binary (reader : Reader) (ofLength : Bool) : Reading Bool := do
  if ofLength then advance
  let first ← reader.current
  advance
  let operator ← reader.current
  advance
  let second ← reader.current
  advance
  let after := reader.at? (← get)
  match numeric? operator with
  | some compare => do
      let a ← number (if ofLength then lengthText first else first)
      match second, after with
      | "-l", some text => do
          advance
          pure (compare a text.length)
      | _, _ => pure (compare a (← number second))
  | none =>
      match textual? (if operator == "==" then "=" else operator) with
      | some compare => pure (compare first second)
      | none => ask (fileComparison operator first second)

/-- The letters of the tests of one operand. -/
def unaryLetters : List Char :=
  ['b', 'c', 'd', 'e', 'f', 'g', 'h', 'k', 'L', 'n', 'N', 'O', 'G', 'o', 'p', 'r', 's', 'S', 't',
    'u', 'w', 'x', 'z']

/-- A test of one operand. -/
def Reader.unary (reader : Reader) : Reading Bool := do
  let operator ← reader.current
  match operator.toList with
  | ['-', letter] =>
      if !unaryLetters.contains letter then
        throw s!"{Quoted.plain operator}: unary operator expected"
      else
        reader.advanceTo
        let operand ← reader.current
        advance
        match letter with
        | 'n' => pure !operand.isEmpty
        | 'z' => pure operand.isEmpty
        | 't' => do
            let _ ← number operand
            pure false
        | _ => ask (fileTest letter operand)
  | _ => throw s!"{Quoted.plain operator}: unary operator expected"

/-- One argument, which holds if it is not empty. -/
def Reader.single (reader : Reader) : Reading Bool := do
  let arg ← reader.current
  advance
  pure !arg.isEmpty

/-- Two arguments. -/
def Reader.two (reader : Reader) : Reading Bool := do
  let arg ← reader.current
  if arg == "!" then
    advance
    pure !(← reader.single)
  else if isSwitch arg then reader.unary
  else reader.beyond

mutual

/-- Arguments of which there are so many. -/
def Reader.counted (reader : Reader) : Nat -> Nat -> Reading Bool
  | 0, _ => pure false
  | fuel + 1, count => do
      let place ← get
      let isAt (offset : Nat) (text : Octets) : Bool :=
        reader.at? (place + offset) == some text
      match count with
      | 1 => reader.single
      | 2 => reader.two
      | 3 => reader.three fuel
      | _ =>
          if count == 4 && isAt 0 "!" then
            reader.advanceTo
            pure !(← reader.three fuel)
          else if count == 4 && isAt 0 "(" && isAt 3 ")" then
            advance
            let value ← reader.two
            advance
            pure value
          else reader.disjunction fuel

/-- Three arguments. -/
def Reader.three (reader : Reader) : Nat -> Reading Bool
  | 0 => pure false
  | fuel + 1 => do
      let place ← get
      let second := (reader.at? (place + 1)).getD ""
      if isBinary second then reader.binary false
      else if reader.at? place == some "!" then
        reader.advanceTo
        pure !(← reader.two)
      else if reader.at? place == some "(" && reader.at? (place + 2) == some ")" then
        advance
        let value ← reader.single
        advance
        pure value
      else if second == "-a" || second == "-o" then reader.disjunction fuel
      else throw s!"{Quoted.plain second}: binary operator expected"

/-- Conditions of which one must hold. -/
def Reader.disjunction (reader : Reader) : Nat -> Reading Bool
  | 0 => pure false
  | fuel + 1 => do
      let first ← reader.conjunction fuel
      if reader.at? (← get) == some "-o" then
        advance
        let second ← reader.disjunction fuel
        pure (first || second)
      else pure first

/-- Conditions that must all hold. -/
def Reader.conjunction (reader : Reader) : Nat -> Reading Bool
  | 0 => pure false
  | fuel + 1 => do
      let first ← reader.term fuel
      if reader.at? (← get) == some "-a" then
        advance
        let second ← reader.conjunction fuel
        pure (first && second)
      else pure first

/-- A condition without connectives. -/
def Reader.term (reader : Reader) : Nat -> Reading Bool
  | 0 => pure false
  | fuel + 1 => do
      let arg ← reader.current
      let place ← get
      let left := reader.args.size - place
      let binaryAt (offset : Nat) : Bool := (reader.at? (place + offset)).any isBinary
      if arg == "!" then
        reader.advanceTo
        pure !(← reader.term fuel)
      else if arg == "(" then
        reader.advanceTo
        let inside := reader.args.toList.drop (place + 1)
        let before := inside.takeWhile (· != ")")
        let count := max 1 before.length
        let value ← reader.counted fuel (if 4 ≤ count then inside.length else count)
        match reader.at? (← get) with
        | none => throw (Quoted.plain ")" ++ " expected")
        | some ")" => do
            advance
            pure value
        | some other => throw (Quoted.plain ")" ++ " expected, found " ++ Quoted.plain other)
      else if 4 ≤ left && arg == "-l" && binaryAt 2 then reader.binary true
      else if 3 ≤ left && binaryAt 1 then reader.binary false
      else if isSwitch arg then reader.unary
      else reader.single

end

/-- Whether the condition that some arguments make up holds, or what is wrong with them. -/
def evaluate (args : List Octets) : Act (Except Octets Bool) := do
  if args.isEmpty then pure (.ok false)
  else
    let reader : Reader := { args := args.toArray }
    let fuel := 8 * args.length + 8
    match ← ((reader.counted fuel args.length).run).run 0 with
    | (.error reason, _) => pure (.error reason)
    | (.ok value, place) =>
        match reader.at? place with
        | some extra => pure (.error s!"extra argument {Quoted.plain extra}")
        | none => pure (.ok value)

end Condition

/-- The status for the value of a condition; a list with something wrong is complained about. -/
def conclude (name : Octets) (value : Except Octets Bool) : Act Nat := do
  match value with
  | .ok holds => pure (if holds then 0 else 1)
  | .error reason => fail name reason 2

/-- Find out whether a condition holds. -/
def test : Program := fun launch => do
  conclude launch.name (← Condition.evaluate launch.args)

/-- Find out whether a condition holds that a bracket closes. -/
def bracket : Program := fun launch => do
  if launch.args.getLast? == some "]" then
    conclude launch.name (← Condition.evaluate launch.args.dropLast)
  else fail launch.name ("missing " ++ Quoted.plain "]") 2

end Programs
end CameraFleet
