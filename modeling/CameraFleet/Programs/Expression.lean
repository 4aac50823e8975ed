import CameraFleet.Programs.Basic
import CameraFleet.Text.Regex.Reader

/-!
# Expressions

Arguments are the words of an expression over numbers and texts. Operators of
one level are applied from left to right. A part whose value does not matter is
read, but not evaluated.
-/

namespace CameraFleet
namespace Programs

open Host

namespace Expression

/-- A value. -/
inductive Value
  /-- A number. -/
  | number (n : Int)
  /-- A text. -/
  | text (content : Octets)
  deriving Repr, DecidableEq

/-- What is wrong with an expression. -/
inductive Mistake
  /-- There is nothing after a word. -/
  | missingAfter (word : Octets)
  /-- A word should not be there. -/
  | unexpected (word : Octets)
  /-- A parenthesis should not be closed. -/
  | unexpectedClose
  /-- A parenthesis should be closed after a word. -/
  | unclosedAfter (word : Octets)
  /-- A parenthesis should be closed where a word is. -/
  | unclosedBefore (word : Octets)
  /-- A number is needed. -/
  | notNumber
  /-- Something is divided by zero. -/
  | divisor
  /-- A pattern is wrong. -/
  | pattern (mistake : Regex.Mistake)

/-- The text of a mistake. -/
def Mistake.message : Mistake -> Octets
  | .missingAfter word => s!"syntax error: missing argument after {Quoted.plain word}"
  | .unexpected word => s!"syntax error: unexpected argument {Quoted.plain word}"
  | .unexpectedClose => "syntax error: unexpected ')'"
  | .unclosedAfter word => s!"syntax error: expecting ')' after {Quoted.plain word}"
  | .unclosedBefore word => s!"syntax error: expecting ')' instead of {Quoted.plain word}"
  | .notNumber => "non-integer argument"
  | .divisor => "division by zero"
  | .pattern mistake => mistake.text

/-- The words that are left, and the one before them. -/
structure Words where
  /-- The word that was read last. -/
  last : Octets
  /-- The words that are left. -/
  rest : List Octets

/-- Reading and evaluating. -/
abbrev Reading := StateT Words (Except Mistake)

/-- The number that a text is in decimal digits, perhaps after a minus sign. -/
def number? (text : Octets) : Option Int :=
  if text.startsWith "+" then none else integer? text

namespace Value

/-- The text of a value. -/
def written : Value -> Octets
  | .number n => toString n
  | .text content => content

/-- Whether a value counts as nothing. -/
def isNull : Value -> Bool
  | .number n => n == 0
  | .text content =>
      content.isEmpty ||
        match content.toList with
        | '-' :: digits => !digits.isEmpty && digits.all (· == '0')
        | digits => digits.all (· == '0')

/-- The number that a value is. -/
def toNumber? : Value -> Option Int
  | .number n => some n
  | .text content => number? content

/-- The number of a condition. -/
def ofBool (holds : Bool) : Value :=
  .number (if holds then 1 else 0)

end Value

/-- Both numbers of an operation. -/
def numbers (left right : Value) : Except Mistake (Int × Int) :=
  match left.toNumber?, right.toNumber? with
  | some a, some b => .ok (a, b)
  | _, _ => .error .notNumber

/-- How two values compare. -/
def compareValues (left right : Value) : Ordering :=
  match number? left.written, number? right.written with
  | some a, some b => compare a b
  | _, _ => compare left.written right.written

/-- The dialect of patterns. -/
def dialect : Regex.Dialect :=
  { emptyRanges := true }

/-- The part of a text that a pattern matches at its start: its length, or the first group. -/
def matching (left right : Value) : Except Mistake Value :=
  match Regex.read dialect right.written with
  | .error mistake => .error (.pattern mistake)
  | .ok regex =>
      let subject : Regex.Subject := { chars := left.written.toList.toArray }
      let hasGroups := regex.groupCount != 0
      match regex.matchAt? subject 0 with
      | none => .ok (if hasGroups then .text "" else .number 0)
      | some found =>
          if hasGroups then
            match found.groups.lookup 1 with
            | some (start, stop) => .ok (.text (subject.between start stop))
            | none => .ok (.text "")
          else .ok (.number found.stop)

/-- The value of an operation. -/
def apply
    (operator : Octets)
    (left right : Value) : Except Mistake Value := do
  let zero : Value := .number 0
  match operator with
  | "|" => pure (if !left.isNull then left else if !right.isNull then right else zero)
  | "&" => pure (if left.isNull || right.isNull then zero else left)
  | "<" => pure (.ofBool (compareValues left right == .lt))
  | "<=" => pure (.ofBool (compareValues left right != .gt))
  | "=" | "==" => pure (.ofBool (compareValues left right == .eq))
  | "!=" => pure (.ofBool (compareValues left right != .eq))
  | ">=" => pure (.ofBool (compareValues left right != .lt))
  | ">" => pure (.ofBool (compareValues left right == .gt))
  | ":" => matching left right
  | _ =>
      let (a, b) ← numbers left right
      match operator with
      | "+" => pure (.number (a + b))
      | "-" => pure (.number (a - b))
      | "*" => pure (.number (a * b))
      | _ =>
          if b == 0 then .error .divisor
          else pure (.number (if operator == "/" then a.tdiv b else a.tmod b))

/-- The operators of each level, those that bind least first. -/
def levels : List (List Octets) :=
  [["|"], ["&"], ["<", "<=", "=", "==", "!=", ">=", ">"], ["+", "-"], ["*", "/", "%"], [":"]]

/-- Whether the right side of an operator matters. -/
def isWanted (operator : Octets) (left : Value) : Bool :=
  if operator == "|" then left.isNull else if operator == "&" then !left.isNull else true

/-- Go over the next word if it is one of some words. -/
def nextOf? (words : List Octets) : Reading (Option Octets) := do
  match (← get).rest with
  | word :: rest =>
      if words.contains word then do
        set ({ last := word, rest } : Words)
        pure (some word)
      else pure none
  | [] => pure none

/-- The next word. -/
def nextWord : Reading Octets := do
  match (← get).rest with
  | word :: rest => do
      set ({ last := word, rest } : Words)
      pure word
  | [] => throw (.missingAfter (← get).last)

/-- The place of the first character that is among some characters, counted from 1. -/
def indexOf (content accepted : Octets) : Nat :=
  match content.toList.findIdx? accepted.toList.contains with
  | some place => place + 1
  | none => 0

/-- So many characters from a place on, counted from 1. -/
def substring
    (content : Octets)
    (place count : Value) : Octets :=
  match place.toNumber?, count.toNumber? with
  | some place, some count =>
      if place ≤ 0 || count ≤ 0 then ""
      else String.ofList ((content.toList.drop (place.toNat - 1)).take count.toNat)
  | _, _ => ""

mutual

/-- The value of the operations of some levels. -/
def readLevels : Nat -> List (List Octets) -> Bool -> Reading Value
  | 0, _, _ => pure (.number 0)
  | fuel + 1, [], matters => readOperand fuel matters
  | fuel + 1, operators :: others, matters => do
      let left ← readLevels fuel others matters
      readRest fuel operators others matters left

/-- The value of the operations of a level that go on from a value. -/
def readRest : Nat -> List Octets -> List (List Octets) -> Bool -> Value -> Reading Value
  | 0, _, _, _, left => pure left
  | fuel + 1, operators, others, matters, left => do
      match ← nextOf? operators with
      | none => pure left
      | some operator => do
          let right ← readLevels fuel others (matters && isWanted operator left)
          let value ← if matters then liftM (apply operator left right) else pure left
          readRest fuel operators others matters value

/-- The value of a word, of a named operation, or of what is in parentheses. -/
def readOperand : Nat -> Bool -> Reading Value
  | 0, _ => pure (.number 0)
  | fuel + 1, matters => do
      match ← nextWord with
      | "+" => pure (.text (← nextWord))
      | "length" => do
          let content ← readOperand fuel matters
          pure (.number content.written.length)
      | "match" => do
          let content ← readOperand fuel matters
          let pattern ← readOperand fuel matters
          if matters then liftM (matching content pattern) else pure content
      | "index" => do
          let content ← readOperand fuel matters
          let accepted ← readOperand fuel matters
          pure (.number (indexOf content.written accepted.written))
      | "substr" => do
          let content ← readOperand fuel matters
          let place ← readOperand fuel matters
          let count ← readOperand fuel matters
          pure (.text (substring content.written place count))
      | "(" => do
          let value ← readLevels fuel levels matters
          match (← get) with
          | { last, rest := [] } => throw (.unclosedAfter last)
          | { rest := word :: rest, .. } =>
              if word == ")" then do
                set ({ last := word, rest } : Words)
                pure value
              else throw (.unclosedBefore word)
      | ")" => throw .unexpectedClose
      | word => pure (.text word)

end

/-- The value of an expression. -/
def evaluate (words : List Octets) : Except Mistake Value := do
  let fuel := 16 * words.length + 16
  let (value, after) ← (readLevels fuel levels true).run { last := "", rest := words }
  match after.rest with
  | [] => pure value
  | word :: _ => throw (.unexpected word)

end Expression

/-- Write the value of an expression. -/
def expr : Program := fun launch => do
  let words :=
    match launch.args with
    | "--" :: rest => rest
    | args => args
  if words.isEmpty then misuse launch.name "missing operand" 2
  else
    match Expression.evaluate words with
    | .error mistake => fail launch.name mistake.message 2
    | .ok value => do
        let status := if value.isNull then 1 else 0
        if ← emit launch.name (Octets.toBytes (value.written ++ "\n")) then pure status else pure 3

end Programs
end CameraFleet
