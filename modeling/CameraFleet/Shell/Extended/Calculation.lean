import CameraFleet.Shell.Arithmetic

/-!
# Calculations

The expressions of the extended language, over whole numbers of 64 bits with a
sign. They are read character by character, so that a complaint can show where
an expression goes wrong. The value of a name is an expression itself. Changes of
parameters are collected and take effect afterwards; an expression sees those
that it has made.
-/

namespace CameraFleet
namespace Shell
namespace Calculation

/-- What calculations know of parameters. -/
structure Access where
  /-- The value of a parameter, or of the member of one that has a key. -/
  value : Octets -> Option Octets -> Option Octets
  /-- Whether the members of a parameter have texts for keys. -/
  isKeyed : Octets -> Bool
  /-- Whether parameters must be set. -/
  isStrict : Bool

/-- What is changed. -/
structure Place where
  /-- The name of the parameter. -/
  name : Octets
  /-- The key of its member. -/
  key : Option Octets := none
  deriving Repr, DecidableEq

/-- A token. -/
inductive Token
  /-- The expression ends. -/
  | finish
  /-- A number. -/
  | number
  /-- A name, perhaps with a key. -/
  | name
  /-- The next name gets one more, or one less, before it is used. -/
  | stepBefore (up : Bool)
  /-- The last name gets one more, or one less, after it is used. -/
  | stepAfter (up : Bool)
  /-- An operator. -/
  | operator (text : String)
  /-- An assignment, perhaps after an operator. -/
  | assign (operator : Option String)
  deriving Repr, DecidableEq

/-- Why there is no value. -/
inductive Problem
  /-- An expression is wrong, at a token. -/
  | wrong (expression reason token : Octets)
  /-- A parameter is not set. -/
  | unset (name : Octets)
  deriving Repr, DecidableEq

/-- The state of a calculation. -/
structure State where
  /-- The expression. -/
  text : List Char
  /-- The characters that are left. -/
  rest : List Char
  /-- The characters that were left before the last token. -/
  mark : List Char := []
  /-- The last token. -/
  token : Token := .finish
  /-- The token before it. -/
  last : Token := .finish
  /-- The value of the last token. -/
  value : Int := 0
  /-- What the last name stands for. -/
  place : Place := { name := "" }
  /-- Whether the expression is only read. -/
  idle : Bool := false
  /-- The changes, newest first. -/
  changes : List (Place × Octets) := []

/-- A step of a calculation. -/
abbrev Step := StateT State (Except Problem)

/-- Whether a character is blank. -/
def isBlank (c : Char) : Bool :=
  c == ' ' || c == '\t' || c == '\n'

/-- The expression is wrong, and what is left of it shows where. -/
def failAt (mark : List Char) (reason : Octets) : Step α := do
  let text := (← get).text.dropWhile isBlank
  throw (.wrong (String.ofList text) reason (String.ofList mark))

/-- The expression is wrong at the last token. -/
def fail (reason : Octets) : Step α := do
  failAt (← get).mark reason

/-- The value of a digit; with a base above 36 small and capital letters differ. -/
def digit? (base : Nat) (c : Char) : Option Nat :=
  if c.isDigit then some (c.toNat - '0'.toNat)
  else if c.isLower then some (c.toNat - 'a'.toNat + 10)
  else if c.isUpper then
    if base ≤ 36 then some (c.toNat - 'A'.toNat + 10) else some (c.toNat - 'A'.toNat + 36)
  else if c == '@' then some 62
  else if c == '_' then some 63
  else none

/-- The value of digits of a base, or what is wrong with them. -/
def valueOf (base : Nat) (chars : List Char) : Except Octets Int :=
  chars.foldl (fun sum c => do
    match (digit? base c).filter (· < base) with
    | some d => pure (Arithmetic.wrap ((← sum) * base + d))
    | none => .error "value too great for base") (.ok 0)

/-- The value of a number, which may give its base, or what is wrong with it. -/
def number (chars : List Char) : Except Octets Int :=
  let baseText := chars.takeWhile (· != '#')
  match chars.dropWhile (· != '#'), chars with
  | _ :: digits, _ =>
      let base := (String.ofList baseText).toNat?.getD 0
      if base < 2 || 64 < base then .error "invalid arithmetic base"
      else if digits.isEmpty then .error "invalid integer constant"
      else if digits.contains '#' then .error "invalid number"
      else valueOf base digits
  | [], '0' :: 'x' :: digits | [], '0' :: 'X' :: digits =>
      if digits.isEmpty then .error "invalid number" else valueOf 16 digits
  | [], '0' :: digits => valueOf 8 digits
  | [], digits => valueOf 10 digits

/-- The characters up to the bracket that closes one, and those after it. -/
def takeKey : Nat -> List Char -> List Char -> Option (List Char × List Char)
  | _, [], _ => none
  | depth, '[' :: rest, taken => takeKey (depth + 1) rest ('[' :: taken)
  | 0, ']' :: rest, taken => some (taken.reverse, rest)
  | depth + 1, ']' :: rest, taken => takeKey depth rest (']' :: taken)
  | depth, c :: rest, taken => takeKey depth rest (c :: taken)

/-- The operators of two characters or three that do not assign. -/
def longOperators : List String :=
  ["<<", ">>", "<=", ">=", "==", "!=", "&&", "||", "**"]

/-- The operators of one character. -/
def shortOperators : List Char :=
  "+-*/%<>=!~&^|?:(),".toList

/-- Whether a token is an operator that wants something after it. -/
def wantsMore (token : Token) : Bool :=
  match token with
  | .finish | .operator _ | .assign _ | .stepBefore _ => true
  | .number | .name | .stepAfter _ => false

/-- Take a token that is an operator. -/
def takeOperator (chars : List Char) : Step Unit := do
  let state ← get
  let done (token : Token) (count : Nat) : Step Unit :=
    modify fun state => { state with last := state.token, token, rest := chars.drop count }
  let assigning := ["<<=", ">>="].find? fun operator => operator.toList.isPrefixOf chars
  match assigning with
  | some operator => done (.assign (some (operator.dropEnd 1).toString)) 3
  | none =>
      match chars with
      | c :: d :: rest =>
          if let some operator := longOperators.find? (· == String.ofList [c, d]) then
            done (.operator operator) 2
          else if (c == '+' || c == '-') && c == d then
            let isUp := c == '+'
            match state.token with
            | .name => done (.stepAfter isUp) 2
            | .number => fail (String.ofList [c, c] ++ ": assignment requires lvalue")
            | _ =>
                if (rest.dropWhile isBlank).head?.any startsName then done (.stepBefore isUp) 2
                else done (.operator (String.singleton c)) 1
          else if d == '=' && "*/%+-&^|".toList.contains c then
            done (.assign (some (String.singleton c))) 2
          else if shortOperators.contains c then
            done (if c == '=' then .assign none else .operator (String.singleton c)) 1
          else if wantsMore state.token then fail "syntax error: operand expected"
          else fail "syntax error: invalid arithmetic operator"
      | [c] =>
          if shortOperators.contains c then
            done (if c == '=' then .assign none else .operator (String.singleton c)) 1
          else if wantsMore state.token then fail "syntax error: operand expected"
          else fail "syntax error: invalid arithmetic operator"
      | [] => pure ()

/-- Whether an assignment comes next. -/
def seesAssignment (chars : List Char) : Bool :=
  match chars.dropWhile isBlank with
  | '=' :: '=' :: _ => false
  | '=' :: _ => true
  | _ => false

/-- The ranks of operators of two numbers; a higher one binds more tightly. -/
def rank? (operator : String) : Option Nat :=
  [("**", 10), ("*", 9), ("/", 9), ("%", 9), ("+", 8), ("-", 8), ("<<", 7), (">>", 7), ("<", 6),
    ("<=", 6), (">", 6), (">=", 6), ("==", 5), ("!=", 5), ("&", 4), ("^", 3), ("|", 2)].lookup
      operator

/-- A power of a number. -/
def power (base : Int) : Nat -> Int
  | 0 => 1
  | count + 1 => Arithmetic.wrap (base * power base count)

/-- The greatest exponent that is counted out; greater ones give the same as one of 64 less. -/
def exponent (n : Int) : Nat :=
  let count := n.toNat
  if count < 4096 then count else 4096 + count % 64

/-- Apply an operator to two numbers. -/
def apply (operator : String) (a b : Int) (mark : List Char) : Step Int := do
  let idle := (← get).idle
  if (operator == "/" || operator == "%") && b = 0 then
    if idle then pure a else failAt (mark.dropWhile isBlank) "division by 0"
  else if operator == "**" then
    if b < 0 then fail "exponent less than 0" else pure (power a (exponent b))
  else
    match Arithmetic.apply operator a b with
    | .ok value => pure value
    | .error _ => pure 0

/-- Note a change, unless the expression is only read. -/
def change (place : Place) (value : Int) : Step Unit :=
  modify fun state =>
    if state.idle then state
    else { state with changes := (place, toString value) :: state.changes }

/-- Do something without an effect if it is not wanted. -/
def idly (isIdle : Bool) (body : Step α) : Step α := do
  let outer := (← get).idle
  modify ({ · with idle := outer || isIdle })
  let value ← body
  modify ({ · with idle := outer })
  pure value

/-- Evaluate an inner expression with the changes made so far. -/
def nested (text : Octets) (body : Step Int) : Step Int := do
  let outer ← get
  let chars := text.toList
  if chars.all isBlank then pure 0
  else
    set { outer with
      text := chars, rest := chars, mark := chars, token := .finish, last := .finish, value := 0 }
    let value ← body
    modify fun state => { outer with changes := state.changes }
    pure value

/-- The place that a name with a key in brackets stands for, as changes see it. -/
def currentValue (access : Access) (place : Place) : Step (Option Octets) := do
  pure (((← get).changes.lookup place).or (access.value place.name place.key))

mutual

/-- Read a token. -/
def readToken (access : Access) : Nat -> Step Unit
  | 0 => fail "expression recursion level exceeded"
  | fuel + 1 => do
      let state ← get
      let chars := state.rest.dropWhile isBlank
      match chars with
      | [] => modify ({ · with last := state.token, token := .finish, rest := [] })
      | c :: _ => do
          modify ({ · with mark := chars, rest := chars })
          if startsName c then readName access fuel chars
          else if c.isDigit then
            let isDigit (c : Char) : Bool := c.isAlphanum || c == '#' || c == '@' || c == '_'
            match number (chars.takeWhile isDigit) with
            | .error reason => fail reason
            | .ok value =>
                modify fun state =>
                  { state with
                    last := state.token, token := .number, value
                    rest := chars.dropWhile isDigit }
          else takeOperator chars

/-- Read a name, and its value unless that is going to be replaced. -/
def readName (access : Access) : Nat -> List Char -> Step Unit
  | 0, _ => fail "expression recursion level exceeded"
  | fuel + 1, chars => do
      let name := String.ofList (chars.takeWhile isInName)
      let (key, rest) ←
        match chars.dropWhile isInName with
        | '[' :: after =>
            match takeKey 0 after [] with
            | some (key, rest) => pure (some (String.ofList key), rest)
            | none => fail "bad array subscript"
        | rest => pure (none, rest)
      let place ←
        match key with
        | none => pure { name }
        | some key =>
            if access.isKeyed name then pure { name, key := some key }
            else do
              let number ← nested key (expression access fuel)
              pure { name, key := some (toString number) }
      let isStepped : Bool :=
        match (← get).token with
        | .stepBefore _ => true
        | _ => false
      let value ←
        if seesAssignment rest && !isStepped then pure 0 else placeValue access fuel place
      modify fun state =>
        { state with last := state.token, token := .name, value, place, rest }

/-- The value that a place stands for. -/
def placeValue (access : Access) : Nat -> Place -> Step Int
  | 0, _ => fail "expression recursion level exceeded"
  | fuel + 1, place => do
      match ← currentValue access place with
      | some text => if (← get).idle then pure 0 else nested text (expression access fuel)
      | none => if access.isStrict then throw (.unset place.name) else pure 0

/-- A whole expression. -/
def expression (access : Access) : Nat -> Step Int
  | 0 => fail "expression recursion level exceeded"
  | fuel + 1 => do
      readToken access fuel
      let value ← commas access fuel
      if (← get).token != .finish then fail "syntax error in expression"
      pure value

/-- Expressions of which the last one counts. -/
def commas (access : Access) : Nat -> Step Int
  | 0 => fail "expression recursion level exceeded"
  | fuel + 1 => do
      let value ← assignment access fuel
      if (← get).token == .operator "," then
        readToken access fuel
        commas access fuel
      else pure value

/-- An expression that may assign. -/
def assignment (access : Access) : Nat -> Step Int
  | 0 => fail "expression recursion level exceeded"
  | fuel + 1 => do
      let value ← choice access fuel
      let state ← get
      match state.token with
      | .assign applied => do
          if state.last != .name then fail "attempted assignment to non-variable"
          let place := state.place
          readToken access fuel
          let right ← assignment access fuel
          let value ←
            match applied with
            | none => pure right
            | some operator => apply operator value right (← get).mark
          change place value
          modify ({ · with last := .number })
          pure value
      | _ => pure value

/-- An expression with a choice. -/
def choice (access : Access) : Nat -> Step Int
  | 0 => fail "expression recursion level exceeded"
  | fuel + 1 => do
      let test ← either access fuel
      if (← get).token == .operator "?" then
        let first ← idly (test = 0) do
          readToken access fuel
          let token := (← get).token
          if token == .finish || token == .operator ":" then fail "expression expected"
          commas access fuel
        if (← get).token != .operator ":" then fail "\x60:' expected for conditional expression"
        let second ← idly (test != 0) do
          readToken access fuel
          if (← get).token == .finish then fail "expression expected"
          choice access fuel
        modify ({ · with last := .number })
        pure (if test = 0 then second else first)
      else pure test

/-- Expressions of which one must hold. -/
def either (access : Access) : Nat -> Step Int
  | 0 => fail "expression recursion level exceeded"
  | fuel + 1 => do
      let first ← both access fuel
      eitherRest access fuel first

/-- Further expressions of which one must hold. -/
def eitherRest (access : Access) : Nat -> Int -> Step Int
  | 0, _ => fail "expression recursion level exceeded"
  | fuel + 1, first => do
      if (← get).token == .operator "||" then
        let second ← idly (first != 0) do
          readToken access fuel
          both access fuel
        modify ({ · with last := .number })
        eitherRest access fuel (Arithmetic.ofBool (first != 0 || second != 0))
      else pure first

/-- Expressions that must all hold. -/
def both (access : Access) : Nat -> Step Int
  | 0 => fail "expression recursion level exceeded"
  | fuel + 1 => do
      let first ← operation access fuel 1
      bothRest access fuel first

/-- Further expressions that must all hold. -/
def bothRest (access : Access) : Nat -> Int -> Step Int
  | 0, _ => fail "expression recursion level exceeded"
  | fuel + 1, first => do
      if (← get).token == .operator "&&" then
        let second ← idly (first = 0) do
          readToken access fuel
          operation access fuel 1
        modify ({ · with last := .number })
        bothRest access fuel (Arithmetic.ofBool (first != 0 && second != 0))
      else pure first

/-- Numbers joined by operators above a rank. -/
def operation (access : Access) : Nat -> Nat -> Step Int
  | 0, _ => fail "expression recursion level exceeded"
  | fuel + 1, rank => do
      let first ← signed access fuel
      further access fuel rank first

/-- What operators above a rank do to a number; powers are taken from the right. -/
def further (access : Access) : Nat -> Nat -> Int -> Step Int
  | 0, _, _ => fail "expression recursion level exceeded"
  | fuel + 1, rank, first => do
      match (← get).token with
      | .operator operator =>
          match (rank? operator).filter (rank < ·) with
          | some higher => do
              let mark := (← get).rest
              readToken access fuel
              let second ← operation access fuel (if operator == "**" then higher - 1 else higher)
              let value ← apply operator first second mark
              modify ({ · with last := .number })
              further access fuel rank value
          | none => pure first
      | _ => pure first

/-- A number with signs before it. -/
def signed (access : Access) : Nat -> Step Int
  | 0 => fail "expression recursion level exceeded"
  | fuel + 1 => do
      let sign? : Option (Int -> Int) :=
        match (← get).token with
        | .operator "!" => some fun n => Arithmetic.ofBool (n == 0)
        | .operator "~" => some fun n => -n - 1
        | .operator "-" => some fun n => Arithmetic.wrap (-n)
        | .operator "+" => some id
        | _ => none
      match sign? with
      | none => primary access fuel
      | some sign => do
          readToken access fuel
          let value := sign (← signed access fuel)
          modify ({ · with last := .number })
          pure value

/-- A number, a name, or an expression in parentheses. -/
def primary (access : Access) : Nat -> Step Int
  | 0 => fail "expression recursion level exceeded"
  | fuel + 1 => do
      let state ← get
      match state.token with
      | .stepBefore up => do
          readToken access fuel
          let named ← get
          if named.token != .name then
            fail "identifier expected after pre-increment or pre-decrement"
          let value := Arithmetic.wrap (named.value + if up then 1 else -1)
          change named.place value
          modify ({ · with token := .number })
          readToken access fuel
          pure value
      | .operator "(" => do
          readToken access fuel
          let value ← commas access fuel
          if (← get).token != .operator ")" then fail "missing \x60)'"
          readToken access fuel
          pure value
      | .number => do
          readToken access fuel
          pure state.value
      | .name => do
          readToken access fuel
          match (← get).token with
          | .stepAfter up => do
              change state.place (Arithmetic.wrap (state.value + if up then 1 else -1))
              modify ({ · with token := .number })
              readToken access fuel
          | _ => modify ({ · with place := state.place })
          pure state.value
      | _ => fail "syntax error: operand expected"

end

/-- The wording of a problem. -/
def Problem.text : Problem -> Octets
  | .wrong expression reason token => s!"{expression}: {reason} (error token is \"{token}\")"
  | .unset name => s!"{name}: unbound variable"

/-- How deep expressions may lie within each other, and how long they may be. -/
def fuelOf (text : Octets) : Nat :=
  64 * (text.length + 64)

/-- The value of an expression, and what it changes, in order. -/
def evaluate
    (access : Access)
    (text : Octets) : Except Problem (Int × List (Place × Octets)) := do
  let chars := text.toList
  if chars.all isBlank then pure (0, [])
  else
    let (value, state) ← (expression access (fuelOf text)).run { text := chars, rest := chars }
    pure (value, state.changes.reverse)

end Calculation
end Shell
end CameraFleet
