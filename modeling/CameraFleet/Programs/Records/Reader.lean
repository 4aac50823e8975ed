import CameraFleet.Programs.Records.Token

/-!
# Reading scripts

Tokens are read from left to right. How strongly an operator binds is a number:
what binds more strongly is read first.
-/

namespace CameraFleet
namespace Programs
namespace Records

/-- In what part of a script something stands. -/
inductive Place
  /-- In a rule for records. -/
  | rule
  /-- In what is done before or after them. -/
  | edge
  /-- In a function. -/
  | function
  deriving Repr, DecidableEq

/-- How a name is used. -/
inductive Usage
  /-- It has a value. -/
  | value
  /-- It has elements. -/
  | array
  deriving Repr, DecidableEq

/-- What a function is called with, as far as that is known. -/
inductive Actual
  /-- A value. -/
  | value
  /-- What a name of the script stands for. -/
  | name (name : Octets)
  /-- Something that is not known. -/
  | unknown
  deriving Repr, DecidableEq

/-- A call of a function. -/
structure CallSite where
  /-- The name of the function. -/
  name : Octets
  /-- The arguments. -/
  args : List Actual
  /-- The number of the line. -/
  line : Nat
  deriving Repr, DecidableEq

/-- How far the tokens have been read. -/
structure Reading where
  /-- The tokens that are left. -/
  tokens : List Placed
  /-- Where they stand. -/
  place : Place := .rule
  /-- The names of the parameters, in a function. -/
  parameters : List Octets := []
  /-- How many loops there are around them. -/
  loops : Nat := 0
  /-- How names have been used. -/
  usages : List (Octets × Usage) := []
  /-- How parameters have been used, in a function. -/
  localUsages : List (Octets × Usage) := []
  /-- How the parameters of functions have been used. -/
  parameterUsages : List (Octets × List (Option Usage)) := []
  /-- The calls of functions. -/
  calls : List CallSite := []

/-- What reads tokens. -/
abbrev Reader (α : Type) :=
  StateT Reading (Except Mistake) α

namespace Reader

/-! ## Tokens -/

/-- The next token, with its place. -/
def upcoming : Reader Placed := do
  match (← get).tokens with
  | placed :: _ => pure placed
  | [] => pure { token := .stop, line := 1 }

/-- The next token. -/
def peek : Reader Token := do
  pure (← upcoming).token

/-- The token after the next one. -/
def peekSecond : Reader Token := do
  match (← get).tokens with
  | _ :: placed :: _ => pure placed.token
  | _ => pure .stop

/-- Go over the next token. -/
def advance : Reader Unit :=
  modify fun reading => { reading with tokens := reading.tokens.drop 1 }

/-- Refuse the script. -/
def refuse (text : Octets) : Reader α := do
  throw { text, line := (← upcoming).line }

/-- Refuse the next token. -/
def refuseToken : Reader α := do
  match ← upcoming with
  | { token := .stop, line, .. } => throw { text := "syntax error at or near end of line", line }
  | { token := .wrong reason, line, .. } => throw { text := reason, line }
  | { token, line, depth } =>
      let isEnd := token == .newline || token == .sign ";" || token == .sign "\x7d"
      if isEnd && 0 < depth then throw { text := s!"missing ) near {token.shown}", line }
      else throw { text := s!"syntax error at or near {token.shown}", line }

/-- Whether the next token is a sign. -/
def isSign (sign : Octets) : Reader Bool := do
  pure ((← peek) == .sign sign)

/-- Go over a sign, if it is the next token. -/
def acceptSign (sign : Octets) : Reader Bool := do
  let isNext ← isSign sign
  if isNext then advance
  pure isNext

/-- Go over a sign. -/
def expectSign (sign : Octets) : Reader Unit := do
  if !(← acceptSign sign) then refuseToken

/-- Go over a name. -/
def expectName : Reader Octets := do
  match ← peek with
  | .name name => do
      advance
      pure name
  | _ => refuseToken

/-- Go over ends of lines. -/
def skipLines : Nat -> Reader Unit
  | 0 => pure ()
  | fuel + 1 => do
      if (← peek) == .newline then
        advance
        skipLines fuel

/-- Go over ends of lines and semicolons. -/
def skipEnds : Nat -> Reader Unit
  | 0 => pure ()
  | fuel + 1 => do
      let token ← peek
      if token == .newline || token == .sign ";" then
        advance
        skipEnds fuel

/-- Note how a name is used. -/
def note (name : Octets) (usage : Usage) : Reader Unit := do
  let reading ← get
  let isLocal := reading.parameters.contains name
  let place := if isLocal then "local " else ""
  let known := if isLocal then reading.localUsages else reading.usages
  match known.lookup name, usage with
  | none, _ =>
      if isLocal then set { reading with localUsages := (name, usage) :: known }
      else set { reading with usages := (name, usage) :: known }
  | some .array, .value => refuse s!"illegal reference to {place}array {name}"
  | some .value, .array => refuse s!"illegal reference to {place}variable {name}"
  | _, _ => pure ()

/-! ## Expressions -/

/-- The comparisons, with their signs. -/
def comparisons : List (Octets × Comparison) :=
  [("<", .less), ("<=", .atMost), ("==", .same), ("!=", .different), (">=", .atLeast),
    (">", .greater)]

/-- The operators that are used with an assignment, with their signs. -/
def updates : List (Octets × Operator) :=
  [("+=", .plus), ("-=", .minus), ("*=", .times), ("/=", .over), ("%=", .modulo), ("^=", .power)]

/-- Whether a token can follow an operand as a further one. -/
def startsOperand : Token -> Bool
  | .number _ _ | .text _ | .pattern _ | .name _ | .callee _ | .builtin _ _ _ _ => true
  | .keyword .length _ | .keyword .getline _ => true
  | .sign sign => ["(", "$", "!", "++", "--"].contains sign
  | _ => false

mutual

/-- The names in an expression that stand for values. -/
def valueNames : Expr -> List Octets
  | .number _ | .text _ | .pattern _ => []
  | .variable name => [name]
  | .element _ keys | .hasKey keys _ => allValueNames keys
  | .field body | .step body _ _ | .not body | .negate body | .toNumber body => valueNames body
  | .assign first second | .update _ first second | .either first second | .both first second
  | .compare _ first second | .isMatch _ first second | .join first second
  | .combine _ first second => valueNames first ++ valueNames second
  | .choose condition yes no => valueNames condition ++ valueNames yes ++ valueNames no
  | .call _ args => handedNames args
  | .builtin function args =>
      if function == .length || function == .split then handedNames args else allValueNames args
  | .readLine _ origin target => someValueNames origin ++ someValueNames target

/-- The names in an expression, if there is one, that stand for values. -/
def someValueNames : Option Expr -> List Octets
  | none => []
  | some expr => valueNames expr

/-- The names in expressions that stand for values. -/
def allValueNames : List Expr -> List Octets
  | [] => []
  | expr :: rest => valueNames expr ++ allValueNames rest

/-- The names in arguments that stand for values; an argument may be an array. -/
def handedNames : List Expr -> List Octets
  | [] => []
  | .variable _ :: rest => handedNames rest
  | expr :: rest => valueNames expr ++ handedNames rest

end

/-- Note the names in an expression that stand for values. -/
def noteValues (body : Expr) : Reader Unit := do
  for name in valueNames body do
    note name .value

/-- A regular expression; a text that is given as such is read at once. -/
def asPattern : Expr -> Reader Expr
  | .text text =>
      match Pattern.read text with
      | .ok pattern => pure (.pattern pattern)
      | .error reason => refuse reason
  | other => pure other

/-- The arguments of a function, with regular expressions in place of texts that describe them. -/
def withPatterns (function : Builtin) (args : List Expr) : Reader (List Expr) := do
  match function, args with
  | .find, [subject, pattern] => do pure [subject, ← asPattern pattern]
  | .replace, pattern :: rest | .replaceAll, pattern :: rest => do
      pure ((← asPattern pattern) :: rest)
  | .split, [subject, array, .text text] => do
      if text.length < 2 then pure args
      else do pure [subject, array, ← asPattern (.text text)]
  | _, _ => pure args

/-- The kinds of operators that bind least, from the one that binds least. -/
inductive Level
  /-- One of two is true. -/
  | either
  /-- Both are true. -/
  | both
  /-- There is a key. -/
  | key
  /-- There is a match. -/
  | isMatch
  /-- Values compare. -/
  | compare
  deriving Repr, DecidableEq

/-- The next kind of operators, which bind more strongly. -/
def Level.next? : Level -> Option Level
  | .either => some .both
  | .both => some .key
  | .key => some .isMatch
  | .isMatch => some .compare
  | .compare => none

mutual

/-- Read an expression; its value is used. -/
def expr : Nat -> Reader Expr
  | 0 => refuse "syntax error"
  | fuel + 1 => do
      let condition ← binary fuel .either
      if ← acceptSign "?" then
        skipLines fuel
        let yes ← expr fuel
        skipLines fuel
        expectSign ":"
        skipLines fuel
        let no ← expr fuel
        pure (.choose condition yes no)
      else pure condition

/-- Read operands with operators of a kind, and of those that bind more strongly. -/
def binary : Nat -> Level -> Reader Expr
  | 0, _ => refuse "syntax error"
  | fuel + 1, level => do
      let first ← tighter fuel level
      binaryOn fuel level first

/-- Read an operand of operators of a kind. -/
def tighter : Nat -> Level -> Reader Expr
  | 0, _ => refuse "syntax error"
  | fuel + 1, level =>
      match level.next? with
      | some next => binary fuel next
      | none => operand fuel

/-- Read on after an operand. -/
def binaryOn : Nat -> Level -> Expr -> Reader Expr
  | 0, _, first => pure first
  | fuel + 1, level, first => do
      match level, ← peek with
      | .either, .sign "||" => do
          advance
          let second ← tighter fuel .either
          binaryOn fuel level (.either first second)
      | .both, .sign "&&" => do
          advance
          let second ← tighter fuel .both
          binaryOn fuel level (.both first second)
      | .key, .keyword .within _ => do
          advance
          let array ← expectName
          note array .array
          binaryOn fuel level (.hasKey [first] array)
      | .isMatch, .sign sign =>
          if sign == "~" || sign == "!~" then do
            advance
            let second ← tighter fuel .isMatch
            binaryOn fuel level (.isMatch (sign == "!~") first second)
          else pure first
      | .compare, .sign sign =>
          match comparisons.lookup sign with
          | some how => do
              advance
              let second ← tighter fuel .compare
              binaryOn fuel level (.compare how first second)
          | none => pure first
      | _, _ => pure first

/-- Read texts that are joined, or an assignment. -/
def operand : Nat -> Reader Expr
  | 0 => refuse "syntax error"
  | fuel + 1 => do
      let first ← sum fuel
      let joined ← joinOn fuel first
      match joined.isTarget, ← peek with
      | true, .sign sign =>
          match sign == "=", updates.lookup sign with
          | true, _ => do
              advance
              skipLines fuel
              let value ← expr fuel
              pure (.assign joined value)
          | false, some operator => do
              advance
              skipLines fuel
              let value ← expr fuel
              pure (.update operator joined value)
          | false, none => pure joined
      | _, _ => pure joined

/-- Read on after texts that are joined. -/
def joinOn : Nat -> Expr -> Reader Expr
  | 0, first => pure first
  | fuel + 1, first => do
      if startsOperand (← peek) then
        let second ← sum fuel
        joinOn fuel (.join first second)
      else pure first

/-- Read a sum. -/
def sum : Nat -> Reader Expr
  | 0 => refuse "syntax error"
  | fuel + 1 => do
      let first ← product fuel
      sumOn fuel first

/-- Read on in a sum. -/
def sumOn : Nat -> Expr -> Reader Expr
  | 0, first => pure first
  | fuel + 1, first => do
      match ← peek with
      | .sign "+" => do
          advance
          let second ← product fuel
          sumOn fuel (.combine .plus first second)
      | .sign "-" => do
          advance
          let second ← product fuel
          sumOn fuel (.combine .minus first second)
      | _ => pure first

/-- Read a product. -/
def product : Nat -> Reader Expr
  | 0 => refuse "syntax error"
  | fuel + 1 => do
      let first ← unary fuel
      productOn fuel first

/-- Read on in a product. -/
def productOn : Nat -> Expr -> Reader Expr
  | 0, first => pure first
  | fuel + 1, first => do
      let further (operator : Operator) : Reader Expr := do
        advance
        let second ← unary fuel
        productOn fuel (.combine operator first second)
      match ← peek with
      | .sign "*" => further .times
      | .sign "/" => further .over
      | .sign "%" => further .modulo
      | _ => pure first

/-- Read an operand with signs before it. -/
def unary : Nat -> Reader Expr
  | 0 => refuse "syntax error"
  | fuel + 1 => do
      match ← peek with
      | .sign "!" => do
          advance
          let body ← unary fuel
          pure (.not body)
      | .sign "-" => do
          advance
          let body ← unary fuel
          pure (.negate body)
      | .sign "+" => do
          advance
          let body ← unary fuel
          pure (.toNumber body)
      | _ => do
          let first ← power fuel
          pipeOn fuel first

/-- Read on where a command is read from. -/
def pipeOn : Nat -> Expr -> Reader Expr
  | 0, first => pure first
  | fuel + 1, first => do
      match ← peek, ← peekSecond with
      | .sign "|", .keyword .getline _ => do
          advance
          advance
          let target ← lineTarget fuel
          pipeOn fuel (.readLine .command (some first) target)
      | _, _ => pure first

/-- Read where a line is read to, if that is said. -/
def lineTarget : Nat -> Reader (Option Expr)
  | 0 => pure none
  | fuel + 1 => do
      match ← peek with
      | .name _ | .sign "$" => do
          let target ← primary fuel
          pure (some target)
      | _ => pure none

/-- Read a power. -/
def power : Nat -> Reader Expr
  | 0 => refuse "syntax error"
  | fuel + 1 => do
      let base ← stepped fuel
      if ← acceptSign "^" then
        let exponent ←
          match ← peek with
          | .sign "-" | .sign "+" | .sign "!" => unary fuel
          | _ => power fuel
        pure (.combine .power base exponent)
      else pure base

/-- Read something that may be changed by one. -/
def stepped : Nat -> Reader Expr
  | 0 => refuse "syntax error"
  | fuel + 1 => do
      let body ← primary fuel
      match body.isTarget, ← peek with
      | true, .sign "++" => do
          advance
          pure (.step body true false)
      | true, .sign "--" => do
          advance
          pure (.step body false false)
      | _, _ => pure body

/-- Read expressions with commas between them. -/
def list : Nat -> Reader (List Expr)
  | 0 => refuse "syntax error"
  | fuel + 1 => do
      let first ← expr fuel
      if ← acceptSign "," then
        skipLines fuel
        let others ← list fuel
        pure (first :: others)
      else pure [first]

/-- Read the arguments of a function. -/
def arguments : Nat -> Reader (List Expr)
  | 0 => refuse "syntax error"
  | fuel + 1 => do
      expectSign "("
      if ← acceptSign ")" then pure []
      else do
        let args ← list fuel
        expectSign ")"
        pure args

/-- Read something without operators. -/
def primary : Nat -> Reader Expr
  | 0 => refuse "syntax error"
  | fuel + 1 => do
      match ← peek with
      | .number value _ => do
          advance
          pure (.number value)
      | .text text => do
          advance
          pure (.text text)
      | .pattern pattern => do
          advance
          pure (.pattern pattern)
      | .sign "(" => do
          advance
          let args ← list fuel
          expectSign ")"
          match args with
          | [body] => pure (if body.isTarget then .choose (.number .one) body body else body)
          | keys => do
              match ← peek with
              | .keyword .within _ => do
                  advance
                  let array ← expectName
                  note array .array
                  pure (.hasKey keys array)
              | _ => refuseToken
      | .sign "$" => do
          advance
          let place ←
            match ← peek with
            | .sign "-" => do
                advance
                let body ← primary fuel
                pure (.negate body)
            | .sign "!" => do
                advance
                let body ← primary fuel
                pure (.not body)
            | .name "NF" => stepped fuel
            | _ => primary fuel
          pure (.field place)
      | .sign "++" => do
          advance
          let target ← primary fuel
          if target.isTarget then pure (.step target true true) else refuseToken
      | .sign "--" => do
          advance
          let target ← primary fuel
          if target.isTarget then pure (.step target false true) else refuseToken
      | .sign "-" => do
          advance
          let body ← primary fuel
          pure (.negate body)
      | .name name => do
          advance
          if ← acceptSign "[" then
            note name .array
            let keys ← list fuel
            expectSign "]"
            pure (.element name keys)
          else pure (.variable name)
      | .callee name => do
          let line := (← upcoming).line
          advance
          if (← get).usages.lookup name == some .value then return .variable name
          let args ← arguments fuel
          let parameters := (← get).parameters
          let actual : Expr -> Actual
            | .variable other => if parameters.contains other then .unknown else .name other
            | _ => .value
          let site : CallSite := { name, args := args.map actual, line }
          modify fun reading => { reading with calls := site :: reading.calls }
          pure (.call name args)
      | .keyword .length _ => do
          advance
          if ← isSign "(" then
            let args ← arguments fuel
            if 1 < args.length then refuse "wrong number of arguments in call to length"
            else pure (.builtin .length args)
          else pure (.builtin .length [])
      | .builtin function name least most => do
          advance
          if function == .flush && !(← isSign "(") then pure (.builtin .flush [])
          else do
            let args ← arguments fuel
            if args.length < least || most < args.length then
              refuse s!"wrong number of arguments in call to {name}"
            else do
              match function, args with
              | .split, _ :: .variable array :: _ => note array .array
              | _, _ => pure ()
              pure (.builtin function (← withPatterns function args))
      | .keyword .getline _ => do
          advance
          let target ← lineTarget fuel
          if ← acceptSign "<" then
            let file ← stepped fuel
            pure (.readLine .file (some file) target)
          else pure (.readLine .records none target)
      | _ => refuseToken

end

/-! ## Statements -/

/-- Whether a token ends a statement. -/
def endsStatement (token : Token) : Bool :=
  token == .newline || token == .stop || token == .sign ";" || token == .sign "\x7d"

/-- Go over the end of a statement. -/
def statementEnd : Reader Unit := do
  let token ← peek
  if token == .newline || token == .sign ";" then advance
  else if token != .sign "\x7d" && token != .stop then refuseToken

/-- The tokens after the parenthesis that closes an open one. -/
def afterClosing : Nat -> List Placed -> List Placed
  | _, [] => []
  | depth, placed :: rest =>
      if placed.token == .sign "(" then afterClosing (depth + 1) rest
      else if placed.token == .sign ")" then
        if depth ≤ 1 then rest else afterClosing (depth - 1) rest
      else afterClosing depth rest

/-- Whether what is printed stands in parentheses. -/
def isEnclosed : Reader Bool := do
  let tokens := (← get).tokens
  match tokens with
  | { token := .sign "(", .. } :: _ =>
      match afterClosing 0 tokens with
      | { token := .redirection _, .. } :: _ | [] => pure true
      | placed :: _ => pure (endsStatement placed.token)
  | _ => pure false

/-- Read an expression and note the names of values in it. -/
def valued (fuel : Nat) : Reader Expr := do
  let body ← expr fuel
  noteValues body
  pure body

/-- Read what is printed, and where. -/
def printed (fuel : Nat) : Reader (List Expr × Option (Redirection × Expr)) := do
  let args ←
    if ← isEnclosed then do
      let args ← arguments fuel
      pure args
    else
      match ← peek with
      | .redirection _ => pure []
      | token => if endsStatement token then pure [] else list fuel
  for arg in args do
    noteValues arg
  match ← peek with
  | .redirection how => do
      advance
      let target ← valued fuel
      pure (args, some (how, target))
  | _ => pure (args, none)

/-- Read an expression, if there is one before a sign. -/
def optionalBefore (fuel : Nat) (sign : Octets) : Reader (Option Expr) := do
  if ← isSign sign then pure none
  else do
    let body ← valued fuel
    pure (some body)

/-- Read something in a loop. -/
def inLoop (body : Reader α) : Reader α := do
  modify fun reading => { reading with loops := reading.loops + 1 }
  let result ← body
  modify fun reading => { reading with loops := reading.loops - 1 }
  pure result

/-- The name and the array at the head of a loop over keys, if that is what comes. -/
def keyLoop? : Reader (Option (Octets × Octets)) := do
  let tokens : List Token := (← get).tokens.map (·.token)
  match tokens with
  | .name name :: .keyword .within _ :: .name array :: .sign ")" :: _ => do
      note name .value
      note array .array
      modify fun reading => { reading with tokens := reading.tokens.drop 4 }
      pure (some (name, array))
  | _ => pure none

/-- Whether the next token that is no end is a keyword. -/
def hasAhead (keyword : Keyword) : Reader Bool := do
  let rest := (← get).tokens.dropWhile fun placed =>
    placed.token == .newline || placed.token == .sign ";"
  match rest with
  | { token := .keyword other _, .. } :: _ => pure (other == keyword)
  | _ => pure false

/-- Read a condition in parentheses. -/
def condition (fuel : Nat) : Reader Expr := do
  expectSign "("
  let body ← valued fuel
  expectSign ")"
  pure body

mutual

/-- Read a statement. -/
def statement : Nat -> Reader Statement
  | 0 => refuse "syntax error"
  | fuel + 1 => do
      match ← peek with
      | .sign "\x7b" => block fuel
      | .sign ";" => do
          advance
          pure (.block [])
      | .sign "\x7d" => pure (.block [])
      | .keyword keyword _ => keywordStatement fuel keyword
      | _ => simple fuel

/-- Read an expression as a statement. -/
def simple : Nat -> Reader Statement
  | fuel => do
      let body ← expr fuel
      noteValues body
      statementEnd
      pure (.expression body)

/-- Read statements in braces. -/
def block : Nat -> Reader Statement
  | 0 => refuse "syntax error"
  | fuel + 1 => do
      expectSign "\x7b"
      let body ← statements fuel
      pure (.block body)

/-- Read statements up to a closing brace. -/
def statements : Nat -> Reader (List Statement)
  | 0 => refuse "syntax error"
  | fuel + 1 => do
      skipEnds fuel
      match ← upcoming with
      | { token := .sign "\x7d", .. } => do
          advance
          pure []
      | { token := .stop, line, .. } =>
          throw { text := "missing \x7d near end of file", line := line + 1 }
      | _ => do
          let first ← statement fuel
          let others ← statements fuel
          pure (first :: others)

/-- Read a statement that is the body of something. -/
def body : Nat -> Reader Statement
  | 0 => refuse "syntax error"
  | fuel + 1 => do
      skipLines fuel
      statement fuel

/-- Read a statement that starts with a keyword. -/
def keywordStatement : Nat -> Keyword -> Reader Statement
  | 0, _ => refuse "syntax error"
  | fuel + 1, keyword => do
      let ended (statement : Statement) : Reader Statement := do
        statementEnd
        pure statement
      match keyword with
      | .length | .getline => simple fuel
      | .print => do
          advance
          let (args, target) ← printed fuel
          ended (.print args target)
      | .printFormat => do
          advance
          let (args, target) ← printed fuel
          if args.isEmpty then refuse "no arguments in call to printf"
          else ended (.printFormat args target)
      | .next => do
          if (← get).place != .rule then refuse "improper use of next"
          advance
          ended .next
      | .nextFile => do
          if (← get).place != .rule then refuse "improper use of nextfile"
          advance
          ended .nextFile
      | .exit => do
          advance
          if endsStatement (← peek) then ended (.exit none)
          else do
            let status ← valued fuel
            ended (.exit (some status))
      | .result => do
          if (← get).place != .function then refuse "return outside function body"
          advance
          if endsStatement (← peek) then ended (.return none)
          else do
            let value ← valued fuel
            ended (.return (some value))
      | .leave => do
          if (← get).loops = 0 then refuse "break statement outside of loop"
          advance
          ended .break
      | .again => do
          if (← get).loops = 0 then refuse "continue statement outside of loop"
          advance
          ended .continue
      | .delete => do
          advance
          let array ← expectName
          note array .array
          if ← acceptSign "[" then
            let keys ← list fuel
            expectSign "]"
            ended (.delete array keys)
          else ended (.deleteAll array)
      | .condition => do
          advance
          let test ← condition fuel
          let yes ← body fuel
          if ← hasAhead .otherwise then
            skipEnds fuel
            advance
            let no ← body fuel
            pure (.choose test yes (some no))
          else pure (.choose test yes none)
      | .during => do
          advance
          let test ← condition fuel
          let turn ← inLoop (body fuel)
          pure (.loop test turn)
      | .body => do
          advance
          let turn ← inLoop (body fuel)
          skipEnds fuel
          match ← peek with
          | .keyword .during _ => do
              advance
              let test ← condition fuel
              ended (.loopAfter turn test)
          | _ => refuseToken
      | .each => do
          advance
          expectSign "("
          match ← keyLoop? with
          | some (name, array) => do
              let turn ← inLoop (body fuel)
              pure (.forKeys name array turn)
          | none => do
              let start ← optionalBefore fuel ";"
              expectSign ";"
              skipLines fuel
              let test ← optionalBefore fuel ";"
              expectSign ";"
              skipLines fuel
              let step ← optionalBefore fuel ")"
              expectSign ")"
              let turn ← inLoop (body fuel)
              pure (.count start test step turn)
      | _ => refuseToken

end

/-! ## Scripts -/

/-- Read the names of parameters up to a closing parenthesis. -/
def parameterNames : Nat -> Reader (List Octets)
  | 0 => refuse "syntax error"
  | fuel + 1 => do
      let name ← expectName
      skipLines fuel
      if ← acceptSign "," then
        skipLines fuel
        let others ← parameterNames fuel
        if others.contains name then refuse s!"{name} is duplicated in argument list"
        else pure (name :: others)
      else do
        expectSign ")"
        pure [name]

/-- Read a function. -/
def function (fuel : Nat) (script : Script) : Reader Script := do
  advance
  match ← peek with
  | .callee name | .name name => do
      if script.functions.any fun (other, _) => other == name then
        refuse s!"redefinition of {name}"
      advance
      expectSign "("
      let parameters ←
        if ← acceptSign ")" then pure []
        else parameterNames fuel
      if parameters.contains name then refuse "function parameter cannot be the function"
      skipLines fuel
      modify fun reading => { reading with place := .function, parameters, localUsages := [] }
      let body ← block fuel
      modify fun reading =>
        let used := parameters.map fun parameter => reading.localUsages.lookup parameter
        { reading with
          place := .rule, parameters := []
          parameterUsages := (name, used) :: reading.parameterUsages }
      let defined : Function := { parameters, body }
      pure { script with functions := script.functions ++ [(name, defined)] }
  | _ => refuseToken

/-- Read what is done before or after the records. -/
def edge (fuel : Nat) : Reader Statement := do
  advance
  modify fun reading => { reading with place := .edge }
  let body ← block fuel
  modify fun reading => { reading with place := .rule }
  pure body

/-- Read a rule. -/
def rule (fuel : Nat) : Reader Rule := do
  let optionalBody : Reader (Option Statement) := do
    match ← peek with
    | .sign "\x7b" => do
        let body ← block fuel
        pure (some body)
    | .newline | .stop | .sign ";" => pure none
    | _ => refuseToken
  if ← isSign "\x7b" then
    let body ← block fuel
    pure { selection := .all, body := some body }
  else do
    let first ← valued fuel
    if ← acceptSign "," then
      skipLines fuel
      let last ← valued fuel
      let body ← optionalBody
      pure { selection := .range first last, body }
    else do
      let body ← optionalBody
      pure { selection := .when first, body }

/-- Go over what may stand between the parts of a script: ends of lines and one semicolon. -/
def partEnd (fuel : Nat) : Reader Unit := do
  skipLines fuel
  let _ ← acceptSign ";"
  skipLines fuel

/-- Read the parts of a script; the number bounds them. -/
def parts (depth : Nat) : Nat -> Script -> Reader Script
  | 0, script => pure script
  | fuel + 1, script => do
      match ← peek with
      | .stop => pure script
      | .keyword .start _ => do
          let body ← edge depth
          partEnd depth
          parts depth fuel { script with starts := script.starts ++ [body] }
      | .keyword .finish _ => do
          let body ← edge depth
          partEnd depth
          parts depth fuel { script with ends := script.ends ++ [body] }
      | .keyword .define _ => do
          let script ← function depth script
          partEnd depth
          parts depth fuel script
      | _ => do
          let next ← rule depth
          partEnd depth
          parts depth fuel { script with rules := script.rules ++ [next] }

/-- How the name of a usage is shown. -/
def usageText : Usage -> Octets
  | .value => "variable"
  | .array => "array"

/-- Check the arguments of a call; the number is that of the first one. -/
def checkArgs
    (reading : Reading)
    (site : CallSite) : Nat -> List Actual -> List (Option Usage) -> Except Mistake Unit
  | _, [], _ | _, _, [] => .ok ()
  | place, actual :: args, expected :: others =>
      let used :=
        match actual with
        | .value => some .value
        | .name name => reading.usages.lookup name
        | .unknown => none
      match used, expected with
      | some used, some expected =>
          if used == expected then checkArgs reading site (place + 1) args others
          else
            let kinds := s!"(actual local {usageText used} vs local {usageText expected})"
            let text := s!"type error in arg({place}) in call to {site.name} {kinds}"
            .error { text, line := site.line }
      | _, _ => checkArgs reading site (place + 1) args others

/-- Check the calls of functions; the line is that of the end. -/
def checkCalls
    (script : Script)
    (reading : Reading)
    (lastLine : Nat) : List CallSite -> Except Mistake Unit
  | [] => .ok ()
  | site :: rest => do
      match script.functions.lookup site.name with
      | none => throw { text := s!"function {site.name} never defined", line := lastLine }
      | some function =>
          if function.parameters.length < site.args.length then
            throw { text := s!"too many arguments in call to {site.name}", line := site.line }
      checkArgs reading site 1 site.args ((reading.parameterUsages.lookup site.name).getD [])
      checkCalls script reading lastLine rest

end Reader

/-- Read a script. -/
def Script.read (text : Octets) : Except Mistake Script := do
  let tokens := Scan.tokens text
  let depth := 24 * tokens.length + 64
  let reader : Reader Script := do
    Reader.skipLines depth
    Reader.parts depth (tokens.length + 1) {}
  let (script, reading) ← reader.run { tokens }
  let lastLine := ((tokens.getLast?.map (·.line)).getD 1) + 1
  Reader.checkCalls script reading lastLine reading.calls.reverse
  pure script

end Records
end Programs
end CameraFleet
