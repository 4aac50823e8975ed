import CameraFleet.Number.Numeral
import CameraFleet.Shell.Token

/-!
# Arithmetic

Expressions over whole numbers of 64 bits with a sign. A text is first taken
apart into tokens; a character that begins none becomes a token that fits
nowhere. Names stand for parameters, whose values must be numbers, and may be
assigned to. What need not be evaluated is only read.
-/

namespace CameraFleet
namespace Shell
namespace Arithmetic

/-- A token of an expression. -/
inductive Token
  /-- A number. -/
  | number (value : Int)
  /-- A name. -/
  | name (text : Octets)
  /-- An operator. -/
  | operator (text : String)
  /-- A character that fits nowhere. -/
  | stray
  deriving Repr, DecidableEq

/-- Why an expression has no value. -/
inductive Problem
  /-- The expression is wrong, in some way. -/
  | wrong (reason : String)
  /-- The value of a parameter is no number. -/
  | illegalNumber (text : Octets)
  deriving Repr, DecidableEq

/-- The values of 64 bits. -/
def modulus : Nat := 18446744073709551616

/-- A number with only its lowest 64 bits kept. -/
def wrap (n : Int) : Int :=
  n.bmod modulus

/-- The greatest number. -/
def greatest : Int := 9223372036854775807

/-- The least number. -/
def least : Int := -9223372036854775808

/-- A number brought between the least and the greatest one. -/
def clamp (n : Int) : Int :=
  max least (min greatest n)

/-- A number with a sign and blanks around it; a text without anything stands for zero. -/
def integer? (text : Octets) : Option Int :=
  let (negative, unsigned) := Numeral.sign text.toList
  let ends (rest : List Char) : Bool := rest.all Numeral.isBlank
  match Numeral.natural? unsigned with
  | some (value, rest) =>
      let value : Int := if negative then -(value : Int) else value
      if ends rest && clamp value == value then some value else none
  | none => if ends text.toList then some 0 else none

/-- The operators, longer ones first. -/
def operators : List String :=
  ["<<=", ">>=", "<<", ">>", "<=", ">=", "==", "!=", "&&", "||", "+=", "-=", "*=", "/=", "%=",
    "&=", "^=", "|=", "+", "-", "*", "/", "%", "<", ">", "=", "!", "~", "&", "^", "|", "?", ":",
    "(", ")"]

/-- The tokens of an expression. -/
def tokens : Nat -> List Char -> List Token
  | 0, _ => []
  | _ + 1, [] => []
  | fuel + 1, c :: rest =>
      if c == ' ' || c == '\t' || c == '\n' then tokens fuel rest
      else if c.isDigit then
        match Numeral.natural? (c :: rest) with
        | some (value, rest) => .number (clamp value) :: tokens fuel rest
        | none => [.stray]
      else if startsName c then
        .name (String.ofList ((c :: rest).takeWhile isInName)) ::
          tokens fuel ((c :: rest).dropWhile isInName)
      else
        match operators.find? fun operator => operator.toList.isPrefixOf (c :: rest) with
        | some operator =>
            .operator operator :: tokens fuel ((c :: rest).drop operator.length)
        | none => [.stray]

/-- The state of an evaluation. -/
structure State where
  /-- The tokens that are left. -/
  rest : List Token
  /-- What has been assigned, newest first. -/
  assigned : List (Octets × Octets) := []

/-- A step of an evaluation. -/
abbrev Evaluation := StateT State (Except Problem)

/-- The next token, which is left where it is. -/
def peek : Evaluation (Option Token) := do
  pure (← get).rest.head?

/-- Skip a token. -/
def skip : Evaluation Unit :=
  modify fun state => { state with rest := state.rest.drop 1 }

/-- Take the next token if it is this operator. -/
def takes (operator : String) : Evaluation Bool := do
  if (← peek) == some (.operator operator) then
    skip
    pure true
  else pure false

/-- The rank of an operator of two numbers; a higher one binds more tightly. -/
def rank? (operator : String) : Option Nat :=
  [("*", 8), ("/", 8), ("%", 8), ("+", 7), ("-", 7), ("<<", 6), (">>", 6), ("<", 5), ("<=", 5),
    (">", 5), (">=", 5), ("==", 4), ("!=", 4), ("&", 3), ("^", 2), ("|", 1)].lookup operator

/-- A truth value as a number. -/
def ofBool (b : Bool) : Int :=
  if b then 1 else 0

/-- A number as its 64 bits. -/
def bits (n : Int) : Nat :=
  (n.emod modulus).toNat

/-- The number of positions by which bits are moved. -/
def shift (n : Int) : Nat :=
  (n.emod 64).toNat

/-- Apply an operator to two numbers. -/
def apply (operator : String) (a b : Int) : Except Problem Int :=
  match operator with
  | "*" => .ok (wrap (a * b))
  | "+" => .ok (wrap (a + b))
  | "-" => .ok (wrap (a - b))
  | "/" => if b = 0 then .error (.wrong "division by zero") else .ok (wrap (a.tdiv b))
  | "%" => if b = 0 then .error (.wrong "division by zero") else .ok (wrap (a.tmod b))
  | "<<" => .ok (wrap (a * Nat.pow 2 (shift b)))
  | ">>" => .ok (a.fdiv (Nat.pow 2 (shift b)))
  | "<" => .ok (ofBool (a < b))
  | "<=" => .ok (ofBool (a ≤ b))
  | ">" => .ok (ofBool (b < a))
  | ">=" => .ok (ofBool (b ≤ a))
  | "==" => .ok (ofBool (a == b))
  | "!=" => .ok (ofBool (a != b))
  | "&" => .ok (wrap (bits a &&& bits b : Nat))
  | "^" => .ok (wrap (bits a ^^^ bits b : Nat))
  | _ => .ok (wrap (bits a ||| bits b : Nat))

/-- The operators that assign, each with the operator that is applied before. -/
def assigning : List (String × Option String) :=
  [("=", none), ("+=", some "+"), ("-=", some "-"), ("*=", some "*"), ("/=", some "/"),
    ("%=", some "%"), ("<<=", some "<<"), (">>=", some ">>"), ("&=", some "&"), ("^=", some "^"),
    ("|=", some "|")]

/-- The number that a name stands for. -/
def numberOf
    (lookup : Octets -> Option Octets)
    (name : Octets) : Evaluation Int := do
  let value := (((← get).assigned.lookup name).or (lookup name)).getD ""
  match integer? value with
  | some n => pure n
  | none => throw (.illegalNumber value)

mutual

/-- An expression that may assign. -/
def assignment
    (lookup : Octets -> Option Octets)
    (idle : Bool) : Nat -> Evaluation Int
  | 0 => throw (.wrong "expecting primary")
  | fuel + 1 => do
      match (← get).rest with
      | .name name :: .operator operator :: rest =>
          match assigning.lookup operator with
          | some applied => do
              modify ({ · with rest })
              let value ← assignment lookup idle fuel
              if idle then pure value
              else
                let value ←
                  match applied with
                  | none => pure value
                  | some operator => apply operator (← numberOf lookup name) value
                modify fun state =>
                  { state with assigned := (name, toString value) :: state.assigned }
                pure value
          | none => conditional lookup idle fuel
      | _ => conditional lookup idle fuel

/-- An expression with a choice. -/
def conditional
    (lookup : Octets -> Option Octets)
    (idle : Bool) : Nat -> Evaluation Int
  | 0 => throw (.wrong "expecting primary")
  | fuel + 1 => do
      let test ← disjunction lookup idle fuel
      if ← takes "?" then
        let first ← assignment lookup (idle || test == 0) fuel
        if !(← takes ":") then throw (.wrong "expecting ':'")
        let second ← conditional lookup (idle || test != 0) fuel
        pure (if test == 0 then second else first)
      else pure test

/-- Expressions of which one must hold. -/
def disjunction
    (lookup : Octets -> Option Octets)
    (idle : Bool) : Nat -> Evaluation Int
  | 0 => throw (.wrong "expecting primary")
  | fuel + 1 => do
      let first ← conjunction lookup idle fuel
      if ← takes "||" then
        let second ← disjunction lookup (idle || first != 0) fuel
        pure (ofBool (first != 0 || second != 0))
      else pure first

/-- Expressions that must all hold. -/
def conjunction
    (lookup : Octets -> Option Octets)
    (idle : Bool) : Nat -> Evaluation Int
  | 0 => throw (.wrong "expecting primary")
  | fuel + 1 => do
      let first ← operation lookup idle fuel 0
      if ← takes "&&" then
        let second ← conjunction lookup (idle || first == 0) fuel
        pure (ofBool (first != 0 && second != 0))
      else pure first

/-- Numbers joined by operators of a rank above a given one. -/
def operation
    (lookup : Octets -> Option Octets)
    (idle : Bool) : Nat -> Nat -> Evaluation Int
  | 0, _ => throw (.wrong "expecting primary")
  | fuel + 1, rank => do
      let first ← primary lookup idle fuel
      further lookup idle fuel rank first

/-- What operators of a rank above a given one do to a number. -/
def further
    (lookup : Octets -> Option Octets)
    (idle : Bool) : Nat -> Nat -> Int -> Evaluation Int
  | 0, _, _ => throw (.wrong "expecting primary")
  | fuel + 1, rank, first => do
      match ← peek with
      | some (.operator operator) =>
          match (rank? operator).filter (rank < ·) with
          | some higher => do
              skip
              let second ← operation lookup idle fuel higher
              let value ← if idle then pure second else apply operator first second
              further lookup idle fuel rank value
          | none => pure first
      | _ => pure first

/-- A number, a name, or an expression in parentheses, perhaps with signs in front. -/
def primary
    (lookup : Octets -> Option Octets)
    (idle : Bool) : Nat -> Evaluation Int
  | 0 => throw (.wrong "expecting primary")
  | fuel + 1 => do
      match ← peek with
      | some (.number value) => do
          skip
          pure value
      | some (.name name) => do
          skip
          if idle then pure 0 else numberOf lookup name
      | some (.operator "(") => do
          skip
          let value ← assignment lookup idle fuel
          if !(← takes ")") then throw (.wrong "expecting ')'")
          pure value
      | some (.operator "+") => do
          skip
          primary lookup idle fuel
      | some (.operator "-") => do
          skip
          pure (wrap (-(← primary lookup idle fuel)))
      | some (.operator "!") => do
          skip
          pure (ofBool ((← primary lookup idle fuel) == 0))
      | some (.operator "~") => do
          skip
          pure (-(← primary lookup idle fuel) - 1)
      | _ => throw (.wrong "expecting primary")

end

/-- The value of an expression, and what it assigns, in order. -/
def evaluate
    (lookup : Octets -> Option Octets)
    (text : Octets) : Except Problem (Int × List (Octets × Octets)) := do
  let chars := text.toList
  let rest := tokens (chars.length + 1) chars
  let (value, state) ← (assignment lookup false (12 * rest.length + 12)).run { rest }
  if state.rest.isEmpty then pure (value, state.assigned.reverse)
  else .error (.wrong "expecting EOF")

/-- The wording of a problem with an expression. -/
def Problem.text (problem : Problem) (expression : Octets) : Octets :=
  match problem with
  | .wrong reason => s!"arithmetic expression: {reason}: \"{expression}\""
  | .illegalNumber text => s!"Illegal number: {text}"

end Arithmetic
end Shell
end CameraFleet
