import CameraFleet.Text.Regex

/-!
# Reading regular expressions

There are two ways to write a regular expression. In the basic one groups,
counts and alternatives have a backslash, in the extended one they have none.
What is read where an operator makes no sense depends on the dialect.
-/

namespace CameraFleet
namespace Regex

/-- What an operator that has nothing to repeat means. -/
inductive Stray
  /-- It stands for itself. -/
  | literal
  /-- It means nothing. -/
  | skipped
  /-- It is a mistake. -/
  | refused
  deriving Repr, DecidableEq

/-- The rules by which regular expressions are written. -/
structure Dialect where
  /-- Whether operators have no backslash. -/
  extended : Bool := false
  /-- What an operator that has nothing to repeat means. -/
  stray : Stray := .literal
  /-- Whether a count may neither come first nor follow a star. -/
  refusesCounts : Bool := false
  /-- Whether a range may end before it starts. -/
  emptyRanges : Bool := false
  /-- Whether the end of a group may stand alone. -/
  looseGroups : Bool := false
  /-- Whether a count that is none stands for itself. -/
  looseCounts : Bool := false

/-- What is wrong with a regular expression. -/
inductive Mistake
  /-- There is nothing after an opening bracket. -/
  | nothingInSet
  /-- There is no such collating element. -/
  | collation
  /-- There is no class of this name. -/
  | className
  /-- It ends with a backslash. -/
  | backslash
  /-- There is no such group. -/
  | reference
  /-- A set has no end. -/
  | openSet
  /-- A group has no end. -/
  | openGroup
  /-- A group has no start. -/
  | closedGroup
  /-- A count has no end. -/
  | openCount
  /-- A count is none. -/
  | count
  /-- A range ends before it starts. -/
  | range
  /-- There is nothing to repeat. -/
  | operand
  /-- A count is too large. -/
  | size
  deriving Repr, DecidableEq

/-- The text of a mistake. -/
def Mistake.text : Mistake -> String
  | .nothingInSet => "Invalid regular expression"
  | .collation => "Invalid collation character"
  | .className => "Invalid character class name"
  | .backslash => "Trailing backslash"
  | .reference => "Invalid back reference"
  | .openSet => "Unmatched [, [^, [:, [., or [="
  | .openGroup => "Unmatched ( or \\("
  | .closedGroup => "Unmatched ) or \\)"
  | .openCount => "Unmatched \\\x7b"
  | .count => "Invalid content of \\\x7b\\\x7d"
  | .range => "Invalid range end"
  | .operand => "Invalid preceding regular expression"
  | .size => "Regular expression too big"

/-- A piece of a written regular expression. -/
inductive Token
  /-- A character that stands for itself. -/
  | char (c : Char)
  /-- Any character. -/
  | anything
  /-- The start of a set. -/
  | openSet
  /-- A character of a word, or another one. -/
  | word (inverted : Bool)
  /-- A space, or another character. -/
  | space (inverted : Bool)
  /-- A condition on the place. -/
  | anchor (condition : Anchor)
  /-- The text of a group. -/
  | again (number : Nat)
  /-- A repetition. -/
  | repetition (sign : Char)
  /-- The start of a count. -/
  | openCount
  /-- The end of a count. -/
  | closeCount
  /-- The start of a group. -/
  | openGroup
  /-- The end of a group. -/
  | closeGroup
  /-- Between alternatives. -/
  | bar
  /-- A backslash at the end. -/
  | backslash
  /-- The end. -/
  | stop
  deriving Repr, DecidableEq

/-- The character that a token is when it stands for itself. -/
def Token.itself : Token -> Char
  | .char c | .repetition c => c
  | .openCount => '{'
  | .closeCount => '}'
  | .closeGroup => ')'
  | _ => '\\'

/-- What a character after a backslash means. -/
def Dialect.escaped (dialect : Dialect) (c : Char) : Token :=
  match c with
  | '<' => .anchor .wordStart
  | '>' => .anchor .wordEnd
  | 'b' => .anchor .wordEdge
  | 'B' => .anchor .noEdge
  | '\x60' => .anchor .textStart
  | '\'' => .anchor .textEnd
  | 'w' => .word false
  | 'W' => .word true
  | 's' => .space false
  | 'S' => .space true
  | _ =>
      if '1' ≤ c && c ≤ '9' then .again (c.toNat - '0'.toNat)
      else if dialect.extended then .char c
      else
        match c with
        | '(' => .openGroup
        | ')' => .closeGroup
        | '{' => .openCount
        | '}' => .closeCount
        | '|' => .bar
        | '+' | '?' => .repetition c
        | _ => .char c

/-- Whether the end of a line can be meant before some characters. -/
def Dialect.canEnd (dialect : Dialect) (rest : List Char) : Bool :=
  dialect.extended ||
    match rest with
    | [] => true
    | '\\' :: c :: _ => c == '|' || c == ')'
    | _ => false

/-- The first token, and the characters after it; a line can start here if that is said. -/
def Dialect.token
    (dialect : Dialect)
    (canStart : Bool)
    (chars : List Char) : Token × List Char :=
  match chars with
  | [] => (.stop, [])
  | ['\\'] => (.backslash, [])
  | '\\' :: c :: rest => (dialect.escaped c, rest)
  | c :: rest =>
      let token : Token :=
        match c with
        | '.' => .anything
        | '[' => .openSet
        | '*' => .repetition '*'
        | '^' => if dialect.extended || canStart then .anchor .lineStart else .char c
        | '$' => if dialect.canEnd rest then .anchor .lineEnd else .char c
        | _ =>
            if dialect.extended then
              match c with
              | '(' => .openGroup
              | ')' => .closeGroup
              | '{' => .openCount
              | '}' => .closeCount
              | '|' => .bar
              | '+' | '?' => .repetition c
              | _ => .char c
            else .char c
      (token, rest)

/-- An element of a set. -/
inductive Element
  /-- A character; it may be a hyphen that means a range. -/
  | char (c : Char) (hyphen : Bool)
  /-- A class. -/
  | named (name : String)
  /-- The characters that are equivalent to one. -/
  | like (name : String)
  /-- A collating element. -/
  | collating (name : String)
  deriving Repr, DecidableEq

/-- The longest name in a set. -/
def longestName : Nat := 32

/-- The name up to a sign and a closing bracket, and the characters after it. -/
def nameIn (sign : Char) : Nat -> List Char -> Except Mistake (List Char × List Char)
  | 0, _ => .error .openSet
  | fuel + 1, c :: rest =>
      match rest with
      | [] => .error .openSet
      | d :: after =>
          if c == sign && d == ']' then .ok ([], after)
          else do
            let (name, after) ← nameIn sign fuel rest
            pure (c :: name, after)
  | _, [] => .error .openSet

/-- The first element, and the characters after it. -/
def element (chars : List Char) : Except Mistake (Element × List Char) :=
  match chars with
  | [] => .error .openSet
  | '[' :: sign :: rest =>
      if sign == ':' || sign == '=' || sign == '.' then do
        let (name, after) ← nameIn sign longestName rest
        let name := String.ofList name
        pure (if sign == ':' then .named name else if sign == '=' then .like name else
          .collating name, after)
      else .ok (.char '[' false, sign :: rest)
  | c :: rest => .ok (.char c (c == '-'), rest)

/-- The only character of a name. -/
def onlyChar (name : String) : Except Mistake Char :=
  match name.toList with
  | [c] => .ok c
  | _ => .error .collation

/-- The end of a range. -/
def Element.limit : Element -> Except Mistake Char
  | .char c _ => .ok c
  | .collating name => onlyChar name
  | .named _ | .like _ => .error .range

/-- The member that an element is alone. -/
def Element.member : Element -> Except Mistake Member
  | .char c _ => .ok (.range c c)
  | .named name => if CharClass.isName name then .ok (.named name) else .error .className
  | .like name | .collating name => do
      let c ← onlyChar name
      pure (.range c c)

/-- Whether an element can start a range. -/
def Element.startsRange : Element -> Bool
  | .char _ _ | .collating _ => true
  | .named _ | .like _ => false

/-- The member that starts with an element, and the characters after it. -/
def memberAfter
    (dialect : Dialect)
    (first : Element)
    (chars : List Char) : Except Mistake (Member × List Char) := do
  match first.startsRange, chars with
  | true, [] => .error .openSet
  | true, '-' :: rest =>
      match rest with
      | [] => .error .openSet
      | ']' :: _ => pure (← first.member, chars)
      | _ => do
          let (last, after) ← element rest
          let low ← first.limit
          let high ← last.limit
          if high < low && !dialect.emptyRanges then .error .range
          else pure (.range low high, after)
  | _, _ => pure (← first.member, chars)

/-- The members of a set up to its end, and the characters after it. -/
def members (dialect : Dialect) :
    Nat -> Bool -> List Char -> Except Mistake (List Member × List Char)
  | 0, _, _ => .error .openSet
  | fuel + 1, isFirst, chars =>
      match isFirst, chars with
      | false, ']' :: rest => .ok ([], rest)
      | _, _ => do
          let (first, rest) ← element chars
          let isLast := rest.head? == some ']'
          if !isFirst && first == .char '-' true && !isLast then .error .range
          else
            let (member, rest) ← memberAfter dialect first rest
            let (others, rest) ← members dialect fuel false rest
            pure (member :: others, rest)

/-- The set after an opening bracket, and the characters after it. -/
def readSet
    (dialect : Dialect)
    (chars : List Char) : Except Mistake (Regex × List Char) := do
  let (inverted, rest) :=
    match chars with
    | '^' :: rest => (true, rest)
    | _ => (false, chars)
  if rest.isEmpty then .error .nothingInSet
  else
    let (found, rest) ← members dialect (rest.length + 1) true rest
    pure (.set inverted found, rest)

/-- The largest count. -/
def largestCount : Nat := 32767

/-- A number in a count. -/
inductive Amount
  /-- There is none. -/
  | missing
  /-- A number. -/
  | number (n : Nat)
  /-- Something else. -/
  | wrong
  deriving Repr, DecidableEq

/-- A number up to a comma or the end of a count, the token after it, and the characters after it. -/
def readAmount (dialect : Dialect) : Nat -> Amount -> List Char -> Amount × Token × List Char
  | 0, _, chars => (.wrong, .stop, chars)
  | fuel + 1, sofar, chars =>
      let (token, rest) := dialect.token false chars
      match token, sofar with
      | .stop, _ => (.wrong, .stop, rest)
      | .closeCount, _ | .char ',', _ => (sofar, token, rest)
      | .char c, .missing =>
          readAmount dialect fuel (if c.isDigit then .number (c.toNat - '0'.toNat) else .wrong) rest
      | .char c, .number n =>
          let next := min (largestCount + 1) (n * 10 + (c.toNat - '0'.toNat))
          readAmount dialect fuel (if c.isDigit then .number next else .wrong) rest
      | _, _ => readAmount dialect fuel .wrong rest

/-- The count after its start and the characters after it; none if it stands for itself. -/
def readCount
    (dialect : Dialect)
    (chars : List Char) :
    Except Mistake (Option ((Nat × Option Nat) × List Char)) := do
  let fuel := chars.length + 1
  let (first, token, rest) := readAmount dialect fuel .missing chars
  let first ←
    match first, token with
    | .missing, .char ',' => pure (Amount.number 0)
    | .missing, _ => .error .count
    | _, _ => pure first
  let (last, token, rest) :=
    match first, token with
    | .wrong, _ | _, .closeCount => (first, token, rest)
    | _, .char ',' => readAmount dialect fuel .missing rest
    | _, _ => (.wrong, token, rest)
  match first, last with
  | .number least, .number most =>
      if most < least || token != .closeCount then .error .count
      else if largestCount < most then .error .size
      else pure (some ((least, some most), rest))
  | .number least, .missing =>
      if token != .closeCount then .error .count
      else if largestCount < least then .error .size
      else pure (some ((least, none), rest))
  | _, _ =>
      if dialect.looseCounts then pure none
      else if token == .stop then .error .openCount
      else .error .count

/-- The repetition that a sign means. -/
def repetitionOf (sign : Char) : Nat × Option Nat :=
  match sign with
  | '+' => (1, none)
  | '?' => (0, some 1)
  | _ => (0, none)

/-- A regular expression with the repetitions after it, and the characters after them. -/
def readRepetitions (dialect : Dialect) :
    Nat -> Regex -> List Char -> Except Mistake (Regex × List Char)
  | 0, body, chars => .ok (body, chars)
  | fuel + 1, body, chars => do
      let (token, rest) := dialect.token false chars
      let after (least : Nat) (most : Option Nat) (rest : List Char) :
          Except Mistake (Regex × List Char) :=
        let next := (dialect.token false rest).1
        if dialect.refusesCounts && (next == .repetition '*' || next == .openCount) then
          .error .operand
        else readRepetitions dialect fuel (.times least most body) rest
      match token with
      | .repetition sign =>
          let (least, most) := repetitionOf sign
          after least most rest
      | .openCount =>
          match ← readCount dialect rest with
          | some ((least, most), rest) => after least most rest
          | none => do
              let (more, rest) ← readRepetitions dialect fuel (.char token.itself) rest
              pure (.both body more, rest)
      | _ => pure (body, chars)

/-- What has been read: how many groups have started, and which have ended. -/
structure Progress where
  /-- How many groups have started. -/
  started : Nat := 0
  /-- The numbers of the groups that have ended. -/
  ended : List Nat := []

/-- A regular expression, what has been read, and the characters after it. -/
abbrev Result := Except Mistake (Regex × Progress × List Char)

/-- One after the other, without what is empty. -/
def join (first second : Regex) : Regex :=
  if second == .empty then first else if first == .empty then second else .both first second

/-- Whether a token ends a sequence at this depth. -/
def endsSequence (depth : Nat) (token : Token) : Bool :=
  token == .bar || token == .stop || (token == .closeGroup && depth != 0)

mutual

/-- The alternatives from here on. -/
def readAlternatives (dialect : Dialect) : Nat -> Nat -> Bool -> Progress -> List Char -> Result
  | 0, _, _, progress, chars => .ok (.empty, progress, chars)
  | fuel + 1, depth, canStart, progress, chars => do
      let (first, progress, rest) ← readSequence dialect fuel depth canStart progress chars
      match dialect.token false rest with
      | (.bar, rest) => do
          let (others, progress, rest) ← readAlternatives dialect fuel depth true progress rest
          pure (.either first others, progress, rest)
      | _ => pure (first, progress, rest)

/-- The sequence from here on. -/
def readSequence (dialect : Dialect) : Nat -> Nat -> Bool -> Progress -> List Char -> Result
  | 0, _, _, progress, chars => .ok (.empty, progress, chars)
  | fuel + 1, depth, canStart, progress, chars =>
      let (token, rest) := dialect.token canStart chars
      if endsSequence depth token then .ok (.empty, progress, chars)
      else do
        let (first, progress, rest) ← readPart dialect fuel depth token progress rest
        let (others, progress, rest) ← readSequence dialect fuel depth false progress rest
        pure (join first others, progress, rest)

/-- The part that starts with a token. -/
def readPart (dialect : Dialect) :
    Nat -> Nat -> Token -> Progress -> List Char -> Result
  | 0, _, _, progress, chars => .ok (.empty, progress, chars)
  | fuel + 1, depth, token, progress, chars =>
      let repeating (body : Regex) (progress : Progress) (rest : List Char) : Result := do
        let (body, rest) ← readRepetitions dialect (rest.length + 1) body rest
        pure (body, progress, rest)
      match token with
      | .char c => repeating (.char c) progress chars
      | .anything => repeating .anything progress chars
      | .word inverted => repeating (.word inverted) progress chars
      | .space inverted => repeating (.set inverted [.named "space"]) progress chars
      | .openSet => do
          let (body, rest) ← readSet dialect chars
          repeating body progress rest
      | .again number =>
          if progress.ended.contains number then repeating (.again number) progress chars
          else .error .reference
      | .anchor condition => .ok (.anchor condition, progress, chars)
      | .backslash => .error .backslash
      | .openGroup => do
          let number := progress.started + 1
          let progress := { progress with started := number }
          let (body, progress, rest) ←
            readAlternatives dialect fuel (depth + 1) true progress chars
          match dialect.token false rest with
          | (.closeGroup, rest) =>
              repeating (.group number body) { progress with ended := number :: progress.ended } rest
          | _ => .error .openGroup
      | .repetition _ | .openCount =>
          if token == .openCount && dialect.refusesCounts then .error .operand
          else
            match dialect.stray with
            | .refused => .error .operand
            | .literal => repeating (.char token.itself) progress chars
            | .skipped =>
                let (next, rest) := dialect.token false chars
                if endsSequence depth next then .ok (.empty, progress, chars)
                else readPart dialect fuel depth next progress rest
      | .closeGroup =>
          if dialect.looseGroups then repeating (.char ')') progress chars
          else .error .closedGroup
      | .closeCount => repeating (.char '}') progress chars
      | .bar | .stop => .ok (.empty, progress, chars)

end

/-- Whether a written regular expression names a class outside of a set. -/
def isLooseClass (chars : List Char) : Bool :=
  match chars with
  | '[' :: ':' :: rest =>
      let name := rest.takeWhile fun c => c != ':' && c != ']'
      !name.isEmpty && (rest.drop name.length).take 2 == [':', ']']
  | _ => false

/-- What is wrong with a class outside of a set. -/
def looseClassText : String := "character class syntax is [[:space:]], not [:space:]"

/-- The regular expression that is written, or what is wrong with it. -/
def read
    (dialect : Dialect)
    (text : String) : Except Mistake Regex := do
  let chars := text.toList
  let (regex, _, _) ← readAlternatives dialect (4 * chars.length + 4) 0 true {} chars
  pure regex

end Regex
end CameraFleet
