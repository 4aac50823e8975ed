import CameraFleet.Programs.Condition
import CameraFleet.Shell.Expansion
import CameraFleet.Shell.Extended.Usage
import CameraFleet.Text.Regex.Reader

/-!
# Trials

Whether something is true, as the extended shell sees it: the condition command,
whose meaning depends on the number of its arguments, and propositions, whose
operands are neither split nor mistaken for operators.
-/

namespace CameraFleet
namespace Shell
namespace Trial

open Programs

/-- The tests of one operand. -/
def isUnary (text : Octets) : Bool :=
  Reading.unaryTests.contains text

/-- The operators of two operands. -/
def isBinary (text : Octets) : Bool :=
  Programs.Condition.isBinary text

/-- Whether a parameter, or a member of one, is set. -/
def isSet (state : State) (text : Octets) : Bool :=
  let chars := text.toList
  let name := String.ofList (chars.takeWhile (· != '['))
  match chars.dropWhile (· != '[') with
  | '[' :: rest =>
      let key := String.ofList rest.dropLast
      if key == "@" || key == "*" then !(state.entriesOf name).isEmpty
      else (state.memberValue? name key).isSome
  | _ =>
      match natural? name with
      | some 0 => true
      | some (place + 1) => place < state.args.length
      | none => (state.wholeValue? name).isSome

/-- A test of one operand. -/
def unary (operator operand : Octets) : Sh Bool := do
  match operator with
  | "-z" => pure operand.isEmpty
  | "-n" => pure !operand.isEmpty
  | "-v" => do pure (isSet (← get) operand)
  | "-o" => do pure (Extended.hasOption (← get) operand)
  | "-R" => do pure ((← get).binding operand).refers
  | "-t" =>
      if (decimal? operand).isNone then
        Extended.refuse 2 s!"{operand}: integer expression expected"
      else pure false
  | "-a" => Sh.act (Programs.Condition.fileTest 'e' operand)
  | "-N" => pure false
  | _ => Sh.act (Programs.Condition.fileTest (operator.toList.getD 1 'e') operand)

/-- Compare two texts, or the files of which they are the names. -/
def compare (operator first second : Octets) : Sh Bool :=
  match Programs.Condition.textual? (if operator == "==" then "=" else operator) with
  | some compare => pure (compare first second)
  | none => Sh.act (Programs.Condition.fileComparison operator first second)

/-! ## The condition command -/

/-- The number that an operand stands for. -/
def number (text : Octets) : Sh Int := do
  match decimal? text with
  | some n => pure n
  | none => Extended.refuse 2 s!"{text}: integer expression expected"

/-- An operator with two operands. -/
def binary (operator first second : Octets) : Sh Bool := do
  match Programs.Condition.numeric? operator with
  | some compare => do pure (compare (← number first) (← number second))
  | none => compare operator first second

/-- The state of reading: the arguments that are left. -/
abbrev Reading := StateT (List Octets) Sh

/-- Something is wrong with the arguments. -/
def wrong (text : Octets) : Reading α :=
  StateT.lift (Extended.refuse 2 text)

/-- The condition that one argument is. -/
def one (arg : Octets) : Bool :=
  !arg.isEmpty

/-- The condition that two arguments are. -/
def two (first second : Octets) : Reading Bool :=
  if first == "!" then pure !(one second)
  else if isUnary first then StateT.lift (unary first second)
  else wrong s!"{first}: unary operator expected"

/-- The condition that three arguments are. -/
def three (first second third : Octets) : Reading Bool :=
  if isBinary second then StateT.lift (binary second first third)
  else if second == "-a" then pure (one first && one third)
  else if second == "-o" then pure (one first || one third)
  else if first == "!" then do pure !(← two second third)
  else if first == "(" && third == ")" then pure (one second)
  else wrong s!"{second}: binary operator expected"

mutual

/-- Conditions of which one must hold. -/
def disjunction : Nat -> Reading Bool
  | 0 => pure false
  | fuel + 1 => do
      let first ← conjunction fuel
      if (← get).head? == some "-o" then
        modify (·.drop 1)
        let second ← disjunction fuel
        pure (first || second)
      else pure first

/-- Conditions that must all hold. -/
def conjunction : Nat -> Reading Bool
  | 0 => pure false
  | fuel + 1 => do
      let first ← term fuel
      if (← get).head? == some "-a" then
        modify (·.drop 1)
        let second ← conjunction fuel
        pure (first && second)
      else pure first

/-- A condition without connectives. -/
def term : Nat -> Reading Bool
  | 0 => pure false
  | fuel + 1 => do
      match ← get with
      | [] => wrong "argument expected"
      | "!" :: rest => do
          set rest
          pure !(← term fuel)
      | "(" :: rest => do
          set rest
          let value ← disjunction fuel
          match ← get with
          | ")" :: rest => do
              set rest
              pure value
          | [] => wrong "\x60)' expected"
          | other :: _ => wrong s!"\x60)' expected, found {other}"
      | first :: operator :: second :: rest => do
          if isBinary operator then
            set rest
            StateT.lift (binary operator first second)
          else single first (operator :: second :: rest)
      | first :: rest => single first rest

/-- A test of the argument after an operator, or an argument that is not empty. -/
def single (first : Octets) (rest : List Octets) : Reading Bool := do
  if isUnary first then
    match rest with
    | operand :: rest => do
        set rest
        StateT.lift (unary first operand)
    | [] => wrong "argument expected"
  else
    set rest
    pure (one first)

end

/-- Any number of arguments as a condition. -/
def general (args : List Octets) : Reading Bool := do
  set args
  let value ← disjunction (8 * args.length + 8)
  match ← get with
  | [] => pure value
  | arg :: _ =>
      if arg.startsWith "-" then wrong s!"syntax error: \x60{arg}' unexpected"
      else wrong "too many arguments"

/-- The condition that some arguments are. -/
def condition (args : List Octets) : Reading Bool :=
  match args with
  | [] => pure false
  | [arg] => pure (one arg)
  | [first, second] => two first second
  | [first, second, third] => three first second third
  | ["!", first, second, third] => do pure !(← three first second third)
  | ["(", first, second, ")"] => two first second
  | args => general args

/-- The condition command. -/
def test (args : List Octets) : Sh Nat := do
  let (value, _) ← (condition args).run args
  pure (if value then 0 else 1)

/-- The condition command with a closing bracket. -/
def bracket (args : List Octets) : Sh Nat := do
  if args.getLast? == some "]" then test args.dropLast
  else Extended.refuse 2 "missing \x60]'"

/-! ## Propositions -/

/-- The number that an operand of a proposition stands for. -/
def calculated (text : Octets) : Sh Int := do
  match ← Sh.tryCalculate text with
  | .ok value => pure value
  | .error problem => Sh.discard s!"[[: {problem}"

/-- Some cells as a regular expression in which what was quoted stands for itself. -/
def regexText (cells : List Cell) : String :=
  String.ofList (cells.flatMap fun cell =>
    if cell.quoted && ".[]\x7b\x7d()\\*+?^$|".toList.contains cell.char then ['\\', cell.char]
    else [cell.char])

/-- The rules of regular expressions in propositions. -/
def dialect : Regex.Dialect where
  extended := true
  stray := .literal

/-- Compare a text with a regular expression, and remember what was matched. -/
def matchesRegex (text : Octets) (cells : List Cell) : Sh (Option Bool) := do
  match Regex.read dialect (regexText cells) with
  | .error _ => pure none
  | .ok regex => do
      let subject : Regex.Subject :=
        { chars := text.toList.toArray
          foldsCase := (← get).settings.contains "nocasematch" }
      match regex.search? subject 0 with
      | none => do
          modify fun state =>
            state.bind "BASH_REMATCH" { members := .numbered [] }
          pure (some false)
      | some found => do
          let group (number : Nat) : Nat × Octets :=
            match found.groups.lookup (number + 1) with
            | some (start, stop) => (number + 1, subject.between start stop)
            | none => (number + 1, "")
          let groups := (List.range regex.groupCount).map group
          let whole := subject.between found.start found.stop
          let members := Members.numbered ((0, whole) :: groups)
          modify fun state =>
            state.bind "BASH_REMATCH" { members, value := members.leading? }
          pure (some true)

/-- Whether a text is like a pattern. -/
def isLike (state : State) (cells : List Cell) (text : Octets) : Bool :=
  if state.settings.contains "nocasematch" then
    let small := cells.map fun cell => { cell with char := cell.char.toLower }
    Pattern.isMatch (Pattern.ofGroupedCells true small) (text.toLower).toList
  else Pattern.isMatch (Pattern.ofGroupedCells true cells) text.toList

/-- The cells that a word of a proposition stands for. -/
def cellsOf
    (capture : Script -> Sh Octets)
    (word : Word) : Sh (List Cell) := do
  pure (Atom.cells (← expandParts capture wordFuel {} true word))

/-- A proposition about two words; none if one of them makes no sense. -/
def relation
    (capture : Script -> Sh Octets)
    (operator : Octets)
    (first second : Word) : Sh (Option Bool) := do
  let left ← nameOf capture first
  match operator with
  | "=~" => do matchesRegex left (← cellsOf capture second)
  | "=" | "==" => do
      let cells ← cellsOf capture second
      pure (some (isLike (← get) cells left))
  | "!=" => do
      let cells ← cellsOf capture second
      pure (some !(isLike (← get) cells left))
  | _ => do
      let right ← nameOf capture second
      match Programs.Condition.numeric? operator with
      | some compare => do
          let a ← calculated left
          let b ← calculated right
          pure (some (compare a b))
      | none => some <$> compare operator left right

/-- A proposition as the trace shows it. -/
def shownTest (words : List Octets) : Octets :=
  "[[ " ++ String.intercalate " " words ++ " ]]"

/-- The status of a proposition, and what is shown of each part that is looked at. -/
def claim
    (capture : Script -> Sh Octets)
    (trace : Octets -> Sh Unit) : Proposition -> Sh Nat
  | .negate body => do
      let status ← claim capture trace body
      pure (if status = 0 then 1 else if status = 1 then 0 else status)
  | .both first second => do
      let status ← claim capture trace first
      if status = 0 then claim capture trace second else pure status
  | .either first second => do
      let status ← claim capture trace first
      if status = 1 then claim capture trace second else pure status
  | .filled word => do
      let text ← nameOf capture word
      trace (shownTest ["-n", Quoting.shown text])
      pure (if text.isEmpty then 1 else 0)
  | .holds operator word => do
      let text ← nameOf capture word
      trace (shownTest [operator, Quoting.shown text])
      pure (if ← unary operator text then 0 else 1)
  | .relates operator first second => do
      if (← get).has 'x' then
        let left ← nameOf capture first
        let right ← nameOf capture second
        trace (shownTest [Quoting.shown left, operator, right])
      match ← relation capture operator first second with
      | some true => pure 0
      | some false => pure 1
      | none => pure 2

end Trial
end Shell
end CameraFleet
