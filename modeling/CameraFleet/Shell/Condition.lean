import CameraFleet.Programs.Condition
import CameraFleet.Shell.State

/-!
# The condition command of the shell

It reads conditions from left to right with one argument in advance. What it
complains about differs from what the program of the same name does.
-/

namespace CameraFleet
namespace Shell

open Programs

namespace Condition

/-- What an argument of a condition is. -/
inductive Kind
  /-- An operand. -/
  | operand
  /-- A test of one operand. -/
  | unary
  /-- An operator of two operands. -/
  | binary
  /-- The sign of negation. -/
  | negation
  /-- The sign that both conditions must hold. -/
  | both
  /-- The sign that one condition must hold. -/
  | either
  /-- An opening parenthesis. -/
  | opening
  /-- A closing parenthesis. -/
  | closing
  /-- There is no argument. -/
  | finish
  deriving Repr, DecidableEq

/-- The tests of one operand. -/
def unaryOperators : List Octets :=
  ["-r", "-w", "-x", "-e", "-f", "-d", "-c", "-b", "-p", "-u", "-g", "-k", "-s", "-t", "-z", "-n",
    "-h", "-L", "-S", "-O", "-G"]

/-- The kind of an argument by itself. -/
def operator? (arg : Octets) : Option Kind :=
  if unaryOperators.contains arg then some .unary
  else if arg != "==" && Programs.Condition.isBinary arg then some .binary
  else
    [("!", Kind.negation), ("-a", .both), ("-o", .either), ("(", .opening),
      (")", .closing)].lookup arg

/-- The state of reading: the arguments that are left. -/
abbrev Reading := StateT (List Octets) Sh

/-- Something is wrong with an argument. -/
def wrong (arg : Option Octets) (reason : Octets) : Reading α :=
  match arg.filter fun arg => !arg.isEmpty with
  | some arg => StateT.lift (Sh.fail s!"{arg}: {reason}")
  | none => StateT.lift (Sh.fail reason)

/-- The kind of the first of some arguments. -/
def kindOf (args : List Octets) : Kind :=
  match args with
  | [] => .finish
  | arg :: rest =>
      match operator? arg with
      | some .unary =>
          let isOperand : Bool :=
            match rest with
            | [] => true
            | [_] => false
            | next :: _ => operator? next == some Kind.binary
          if isOperand then .operand else .unary
      | some .opening => if rest.isEmpty then .operand else .opening
      | some kind => kind
      | none => .operand

/-- Go on to the next argument. -/
def advance : Reading Unit :=
  modify (·.drop 1)

/-- The number that an operand stands for. -/
def number (text : Octets) : Reading Int :=
  match decimal? text with
  | some n => pure n
  | none => StateT.lift (Sh.fail s!"Illegal number: {text}")

/-- A test of one operand. -/
def unary (operator operand : Octets) : Reading Bool :=
  match operator with
  | "-z" => pure operand.isEmpty
  | "-n" => pure !operand.isEmpty
  | "-t" => do
      let _ ← number operand
      pure false
  | _ => StateT.lift (Sh.act (Programs.Condition.fileTest (operator.toList.getD 1 'e') operand))

/-- An operator with two operands. -/
def binary (operator first second : Octets) : Reading Bool :=
  match Programs.Condition.numeric? operator, Programs.Condition.textual? operator with
  | some compare, _ => do pure (compare (← number first) (← number second))
  | _, some compare => pure (compare first second)
  | none, none => StateT.lift (Sh.act (Programs.Condition.fileComparison operator first second))

mutual

/-- Conditions of which one must hold; the kind is that of the first argument. -/
def disjunction : Nat -> Kind -> Reading Bool
  | 0, _ => pure false
  | fuel + 1, kind => do
      let first ← conjunction fuel kind
      if kindOf ((← get).drop 1) == .either then
        modify (·.drop 2)
        let second ← disjunction fuel (kindOf (← get))
        pure (first || second)
      else pure first

/-- Conditions that must all hold. -/
def conjunction : Nat -> Kind -> Reading Bool
  | 0, _ => pure false
  | fuel + 1, kind => do
      let first ← negation fuel kind
      if kindOf ((← get).drop 1) == .both then
        modify (·.drop 2)
        let second ← conjunction fuel (kindOf (← get))
        pure (first && second)
      else pure first

/-- A condition that may be negated. -/
def negation : Nat -> Kind -> Reading Bool
  | 0, _ => pure false
  | fuel + 1, kind => do
      if kind == .negation then
        let next := kindOf ((← get).drop 1)
        if next != .finish then advance
        pure !(← negation fuel next)
      else primary fuel kind

/-- A condition without connectives. -/
def primary : Nat -> Kind -> Reading Bool
  | 0, _ => pure false
  | fuel + 1, kind => do
      match kind, ← get with
      | .finish, _ => pure false
      | .opening, _ => do
          advance
          let next := kindOf (← get)
          if next == .closing then pure false
          else
            let value ← disjunction fuel next
            advance
            if kindOf (← get) != .closing then wrong none "closing paren expected"
            pure value
      | .unary, operator :: rest => do
          match rest with
          | [] => wrong operator "argument expected"
          | operand :: _ => do
              advance
              unary operator operand
      | _, first :: operator :: rest => do
          if kindOf (operator :: rest) == .binary then
            modify (·.drop 2)
            match rest with
            | [] => wrong operator "argument expected"
            | second :: _ => binary operator first second
          else pure !first.isEmpty
      | _, [first] => pure !first.isEmpty
      | _, [] => pure false

end

/-- The value of the condition that some arguments make up, with a leading negation taken off. -/
def evaluate (args : List Octets) : Sh Bool := do
  let (args, kind) :=
    match args with
    | [_, operator, _] =>
        if operator? operator == some Kind.binary then (args, Kind.operand)
        else
          match args with
          | ["(", inner, ")"] => ([inner], kindOf [inner])
          | _ => (args, kindOf args)
    | ["(", first, second, ")"] => ([first, second], kindOf [first, second])
    | _ => (args, kindOf args)
  let reading : Reading Bool := do
    let value ← disjunction (8 * args.length + 8) kind
    match ← get with
    | arg :: _ :: _ => wrong arg "unexpected operator"
    | _ => pure value
  pure (← reading.run args).1

/-- The status of the condition that some arguments make up. -/
def status : List Octets -> Sh Nat
  | [] => pure 1
  | args => do
      match args with
      | ["!", first, second] =>
          if operator? first == some Kind.binary then
            pure (if ← evaluate args then 0 else 1)
          else pure (if ← evaluate [first, second] then 1 else 0)
      | ["!", first, operator, second] =>
          pure (if ← evaluate [first, operator, second] then 1 else 0)
      | _ => pure (if ← evaluate args then 0 else 1)

end Condition
end Shell
end CameraFleet
