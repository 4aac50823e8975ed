import CameraFleet.Text.OrderedRegex

/-!
# Reading ordered regular expressions

Groups, sets, escapes and repetitions are read one after another; what follows a
question mark at the start of a group says what the group is for.
-/

namespace CameraFleet
namespace OrderedRegex

/-- How a part of a regular expression is read. -/
structure Mode where
  /-- Whether letters are the same in both cases. -/
  foldsCase : Bool := false
  /-- Whether a dot matches the end of a line. -/
  dotsAll : Bool := false
  /-- Whether blanks and comments are left out. -/
  isLoose : Bool := false
  deriving Repr, DecidableEq

/-- What has been read of groups. -/
structure Reading where
  /-- The number of groups. -/
  groups : Nat := 0
  /-- The names of groups, with their numbers. -/
  names : List (String × Nat) := []
  /-- The greatest number of a group that is referred to. -/
  greatest : Nat := 0
  /-- How parts are read. -/
  mode : Mode := {}

/-- What has been read, how reading goes on, and what is left. -/
abbrev Outcome := OrderedRegex × Reading × List Char

/-- A character that stands for itself. -/
def itself (mode : Mode) (c : Char) : OrderedRegex :=
  .set [.range c c] false mode.foldsCase

/-- One after the other, without what is empty. -/
def joined (first second : OrderedRegex) : OrderedRegex :=
  match first, second with
  | .empty, _ => second
  | _, .empty => first
  | _, _ => .sequence first second

/-- The value of digits, and what is left; the number bounds the digits. -/
def digits (base : Nat) : Nat -> Nat -> List Char -> Nat × List Char
  | 0, value, chars => (value, chars)
  | _ + 1, value, [] => (value, [])
  | count + 1, value, c :: rest =>
      let digit :=
        if c.isDigit then c.toNat - '0'.toNat
        else if 'a' ≤ c && c ≤ 'f' then c.toNat - 'a'.toNat + 10
        else if 'A' ≤ c && c ≤ 'F' then c.toNat - 'A'.toNat + 10
        else base
      if digit < base then digits base count (value * base + digit) rest else (value, c :: rest)

/-- The character that a code stands for. -/
def codeChar (code : Nat) : Except String Char :=
  if code < 256 then .ok (Char.ofNat code)
  else .error "character code point value in \\x\x7b\x7d or \\o\x7b\x7d is too large"

/-- The characters up to a closing brace, and what is left. -/
def braced (chars : List Char) : Option (List Char × List Char) :=
  match chars.dropWhile (· != '\x7d') with
  | _ :: rest => some (chars.takeWhile (· != '\x7d'), rest)
  | [] => none

/-- The classes that a letter after a backslash stands for. -/
def letterClass? (c : Char) : Option Member :=
  match c with
  | 'd' => some (.named "digit" false)
  | 'D' => some (.named "digit" true)
  | 'w' => some (.named "word" false)
  | 'W' => some (.named "word" true)
  | 's' => some (.named "space" false)
  | 'S' => some (.named "space" true)
  | 'h' => some (.named "horizontal" false)
  | 'H' => some (.named "horizontal" true)
  | 'v' => some (.named "vertical" false)
  | 'V' => some (.named "vertical" true)
  | _ => none

/-- The classes of properties of characters. -/
def properties : List (String × String) :=
  [("L", "alpha"), ("Lu", "upper"), ("Ll", "lower"), ("N", "digit"), ("Nd", "digit"),
    ("P", "punct"), ("Z", "blank"), ("Zs", "blank"), ("Xan", "alnum"), ("Xwd", "word"),
    ("Xsp", "space"), ("Xps", "space"), ("Cc", "cntrl"), ("Any", "any")]

/-- The class of a property that is written after a backslash. -/
def property (inverted : Bool) (chars : List Char) : Except String (Member × List Char) := do
  let (name, rest) ←
    match chars with
    | '\x7b' :: rest =>
        match braced rest with
        | some found => pure found
        | none => throw "malformed \\P or \\p sequence"
    | c :: rest => pure ([c], rest)
    | [] => throw "malformed \\P or \\p sequence"
  let (name, isOther) :=
    match name with
    | '^' :: name => (name, !inverted)
    | _ => (name, inverted)
  match properties.lookup (String.ofList name) with
  | some found => pure (.named found isOther, rest)
  | none => throw "unknown property after \\P or \\p"

/-- The character that follows a backslash as an escape, if it is one. -/
def escaped? (c : Char) (rest : List Char) : Option (Except String (Char × List Char)) :=
  match c with
  | 'a' => some (.ok ('\x07', rest))
  | 'e' => some (.ok ('\x1b', rest))
  | 'f' => some (.ok ('\x0c', rest))
  | 'n' => some (.ok ('\n', rest))
  | 'r' => some (.ok ('\r', rest))
  | 't' => some (.ok ('\t', rest))
  | 'c' =>
      some <|
        match rest with
        | [] => .error "\\c at end of pattern"
        | c :: rest =>
            let code := c.toUpper.toNat
            .ok (Char.ofNat (if code / 64 % 2 = 1 then code - 64 else code + 64), rest)
  | '0' =>
      let (code, rest) := digits 8 2 0 rest
      some ((codeChar code).map fun c => (c, rest))
  | 'o' =>
      match rest with
      | '\x7b' :: inner =>
          let (code, after) := digits 8 12 0 inner
          some <|
            match after with
            | '\x7d' :: rest => (codeChar code).map fun c => (c, rest)
            | _ => .error "non-octal character in \\o\x7b\x7d (closing brace missing?)"
      | _ => some (.error "missing opening brace after \\o")
  | 'x' =>
      match rest with
      | '\x7b' :: inner =>
          let (code, after) := digits 16 12 0 inner
          some <|
            match after with
            | '\x7d' :: rest => (codeChar code).map fun c => (c, rest)
            | _ => .error "non-hex character in \\x\x7b\x7d (closing brace missing?)"
      | _ =>
          let (code, rest) := digits 16 2 0 rest
          some ((codeChar code).map fun c => (c, rest))
  | _ => none

/-! ## Sets -/

/-- A member of a set: one character, or a class. -/
def readMember (chars : List Char) : Except String ((Char ⊕ Member) × List Char) :=
  let missing : String := "missing terminating ] for character class"
  match chars with
  | [] => .error missing
  | '[' :: ':' :: rest =>
      let isInverted := rest.head? == some '^'
      let name := (if isInverted then rest.drop 1 else rest).takeWhile fun c => c.isAlpha
      let after := (if isInverted then rest.drop 1 else rest).drop name.length
      match after with
      | ':' :: ']' :: after =>
          let name := String.ofList name
          if name == "word" || CharClass.isName name then
            .ok (.inr (.named name isInverted), after)
          else .error "unknown POSIX class name"
      | _ => .ok (.inl '[', ':' :: rest)
  | '\\' :: [] => .error "\\ at end of pattern"
  | '\\' :: c :: rest =>
      match letterClass? c with
      | some member => .ok (.inr member, rest)
      | none =>
          if c == 'p' || c == 'P' then do
            let (member, rest) ← property (c == 'P') rest
            pure (.inr member, rest)
          else if c == 'b' then .ok (.inl '\x08', rest)
          else if '1' ≤ c && c ≤ '7' then do
            let (code, rest) := digits 8 3 0 (c :: rest)
            pure (.inl (← codeChar (code % 256)), rest)
          else
            match escaped? c rest with
            | some found => do
                let (c, rest) ← found
                pure (.inl c, rest)
            | none => .ok (.inl c, rest)
  | c :: rest => .ok (.inl c, rest)

/-- The members of a set, up to its end; the number bounds them. -/
def readMembers : Nat -> Bool -> List Char -> Except String (List Member × List Char)
  | 0, _, _ => .error "missing terminating ] for character class"
  | fuel + 1, isFirst, chars =>
      match chars with
      | [] => .error "missing terminating ] for character class"
      | c :: rest =>
          if c == ']' && !isFirst then .ok ([], rest)
          else do
            let (member, after) ← readMember chars
            match member, after with
            | .inl first, '-' :: next :: _ =>
                if next == ']' then
                  let (others, rest) ← readMembers fuel false after
                  pure (.range first first :: others, rest)
                else
                  let (last, rest) ← readMember (after.drop 1)
                  match last with
                  | .inl last =>
                      if last < first then throw "range out of order in character class"
                      let (others, rest) ← readMembers fuel false rest
                      pure (.range first last :: others, rest)
                  | .inr _ => throw "invalid range in character class"
            | .inr member, '-' :: next :: _ =>
                if next == ']' then
                  let (others, rest) ← readMembers fuel false after
                  pure (member :: others, rest)
                else throw "invalid range in character class"
            | .inl c, _ =>
                let (others, rest) ← readMembers fuel false after
                pure (.range c c :: others, rest)
            | .inr member, _ =>
                let (others, rest) ← readMembers fuel false after
                pure (member :: others, rest)

/-- A set after its opening bracket. -/
def readSet (reading : Reading) (chars : List Char) : Except String Outcome := do
  let (inverted, inner) :=
    match chars with
    | '^' :: rest => (true, rest)
    | _ => (false, chars)
  let (members, rest) ← readMembers (inner.length + 1) true inner
  pure (.set members inverted reading.mode.foldsCase, reading, rest)

/-! ## Repetitions -/

/-- The greatest number of repetitions that can be asked for. -/
def greatestCount : Nat := 65535

/-- A number of repetitions in braces, if one is written there. -/
def readCount? (chars : List Char) : Option (Except String ((Nat × Option Nat) × List Char)) :=
  let least := chars.takeWhile Char.isDigit
  let value (digits : List Char) : Nat := ((String.ofList digits).toNat?).getD 0
  let result (least : Nat) (most : Option Nat) (rest : List Char) :
      Except String ((Nat × Option Nat) × List Char) :=
    if greatestCount < least || most.any (greatestCount < ·) then
      .error "number too big in \x7b\x7d quantifier"
    else if most.any (· < least) then .error "numbers out of order in \x7b\x7d quantifier"
    else .ok ((least, most), rest)
  if least.isEmpty then none
  else
    match chars.drop least.length with
    | '\x7d' :: rest => some (result (value least) (some (value least)) rest)
    | ',' :: rest =>
        let most := rest.takeWhile Char.isDigit
        match rest.drop most.length with
        | '\x7d' :: after =>
            some (result (value least) (if most.isEmpty then none else some (value most)) after)
        | _ => none
    | _ => none

/-- The repetition that is written, if there is one. -/
def readRepetition? (chars : List Char) :
    Option (Except String ((Nat × Option Nat) × List Char)) :=
  match chars with
  | '*' :: rest => some (.ok ((0, none), rest))
  | '+' :: rest => some (.ok ((1, none), rest))
  | '?' :: rest => some (.ok ((0, some 1), rest))
  | '\x7b' :: rest => readCount? rest
  | _ => none

/-- What is left after blanks and a comment, if they are left out. -/
def afterGap (mode : Mode) : Nat -> List Char -> List Char
  | 0, chars => chars
  | fuel + 1, chars =>
      match chars with
      | c :: rest =>
          if !mode.isLoose then chars
          else if c == '#' then afterGap mode fuel ((rest.dropWhile (· != '\n')).drop 1)
          else if c == ' ' || ('\t' ≤ c && c ≤ '\r') then afterGap mode fuel rest
          else chars
      | [] => []

/-- A regular expression with the repetition after it. -/
def repeated
    (regex : OrderedRegex)
    (reading : Reading)
    (chars : List Char) : Except String Outcome :=
  let chars := afterGap reading.mode (chars.length + 1) chars
  match readRepetition? chars with
  | none => .ok (regex, reading, chars)
  | some found => do
      let ((least, most), rest) ← found
      match rest with
      | '?' :: rest => pure (.repetition regex least most .fewest, reading, rest)
      | '+' :: rest => pure (.repetition regex least most .all, reading, rest)
      | _ => pure (.repetition regex least most .most, reading, rest)

/-! ## Groups -/

/-- A reference to a group. -/
def reference (reading : Reading) (number : Nat) : OrderedRegex × Reading :=
  (.again number reading.mode.foldsCase,
    { reading with greatest := max number reading.greatest })

/-- A reference to a group by its name. -/
def namedReference
    (reading : Reading)
    (name rest : List Char) : Except String Outcome :=
  match reading.names.lookup (String.ofList name) with
  | some number =>
      let (regex, reading) := reference reading number
      .ok (regex, reading, rest)
  | none => .error "reference to non-existent subpattern"

/-- What an escape stands for. -/
def readEscape (reading : Reading) (chars : List Char) : Except String Outcome :=
  let plain (regex : OrderedRegex) (rest : List Char) : Except String Outcome :=
    .ok (regex, reading, rest)
  match chars with
  | [] => .error "\\ at end of pattern"
  | c :: rest =>
      match letterClass? c with
      | some member => plain (.set [member] false false) rest
      | none =>
          match c with
          | 'b' => plain (.anchor (.wordEdge false)) rest
          | 'B' => plain (.anchor (.wordEdge true)) rest
          | 'A' | 'G' => plain (.anchor .textStart) rest
          | 'z' => plain (.anchor .textEnd) rest
          | 'Z' => plain (.anchor .textEnd) rest
          | 'K' => plain .keep rest
          | 'N' => plain (.set [.range '\n' '\n'] true false) rest
          | 'R' => plain (.set [.named "vertical" false] false false) rest
          | 'p' | 'P' => do
              let (member, rest) ← property (c == 'P') rest
              plain (.set [member] false reading.mode.foldsCase) rest
          | 'g' =>
              let wrong : String :=
                "\\g is not followed by a braced, angle-bracketed, or quoted name/number or " ++
                "by a plain number"
              match rest with
              | '\x7b' :: inner =>
                  match braced inner with
                  | some (name, after) =>
                      match (String.ofList name).toNat?, name with
                      | some number, _ =>
                          let (regex, reading) := reference reading number
                          .ok (regex, reading, after)
                      | none, '-' :: digits =>
                          let back := ((String.ofList digits).toNat?).getD 0
                          if back = 0 || reading.groups < back then
                            .error "reference to non-existent subpattern"
                          else
                            let (regex, reading) :=
                              reference reading (reading.groups + 1 - back)
                            .ok (regex, reading, after)
                      | none, _ => namedReference reading name after
                  | none => .error wrong
              | d :: _ =>
                  if d.isDigit then
                    let (number, after) := digits 10 9 0 rest
                    let (regex, reading) := reference reading number
                    .ok (regex, reading, after)
                  else .error wrong
              | [] => .error wrong
          | 'k' =>
              let wrong : String :=
                "\\k is not followed by a braced, angle-bracketed, or quoted name"
              let closing : Option Char :=
                match rest.head? with
                | some '<' => some '>'
                | some '\x7b' => some '\x7d'
                | some '\'' => some '\''
                | _ => none
              match closing with
              | none => .error wrong
              | some mark =>
                  let name := (rest.drop 1).takeWhile (· != mark)
                  match (rest.drop 1).drop name.length with
                  | _ :: after => namedReference reading name after
                  | [] => .error "syntax error in subpattern name (missing terminator?)"
          | _ =>
              if '1' ≤ c && c ≤ '9' then
                let (number, after) := digits 10 9 0 chars
                if number < 10 || '8' ≤ c || number ≤ reading.groups then
                  let (regex, reading) := reference reading number
                  .ok (regex, reading, after)
                else do
                  let (code, rest) := digits 8 3 0 chars
                  plain (itself reading.mode (← codeChar (code % 256))) rest
              else
                match escaped? c rest with
                | some found => do
                    let (c, rest) ← found
                    plain (itself reading.mode c) rest
                | none => plain (itself reading.mode c) rest

/-- The mode that letters after a question mark ask for, and what is left. -/
def readMode : Bool -> Mode -> List Char -> Except String (Mode × List Char)
  | _, mode, [] => .ok (mode, [])
  | value, mode, c :: rest =>
      match c with
      | 'i' => readMode value { mode with foldsCase := value } rest
      | 's' => readMode value { mode with dotsAll := value } rest
      | 'x' => readMode value { mode with isLoose := value } rest
      | 'm' | 'n' | 'J' | 'U' => readMode value mode rest
      | '-' => readMode false mode rest
      | ')' | ':' => .ok (mode, c :: rest)
      | _ => .error "unrecognized character after (? or (?-"

/-- What a group is for. -/
inductive Purpose
  /-- It has a number, and perhaps a name. -/
  | numbered (name : Option String)
  /-- It only holds its parts together. -/
  | plain
  /-- It looks ahead. -/
  | ahead (inverted : Bool)
  /-- It looks back. -/
  | behind (inverted : Bool)
  /-- Only its first possibility counts. -/
  | atomic

/-- The name of a group up to a mark, and what is left. -/
def readName (mark : Char) (chars : List Char) : Except String (Purpose × List Char) :=
  let name := chars.takeWhile isWordChar
  match chars.head? with
  | none => .error "subpattern name expected"
  | some first =>
      if first.isDigit then .error "subpattern name must start with a non-digit"
      else if name.isEmpty then .error "subpattern name expected"
      else
        match chars.drop name.length with
        | c :: rest =>
            if c == mark then .ok (.numbered (some (String.ofList name)), rest)
            else .error "syntax error in subpattern name (missing terminator?)"
        | [] => .error "syntax error in subpattern name (missing terminator?)"

/-- What a group is for and what is left, or a mode for what follows. -/
def readPurpose (mode : Mode) (chars : List Char) :
    Except String ((Purpose × Mode ⊕ Mode) × List Char) := do
  let found (purpose : Purpose) (rest : List Char) :
      Except String ((Purpose × Mode ⊕ Mode) × List Char) :=
    pure (.inl (purpose, mode), rest)
  let named (mark : Char) (rest : List Char) :
      Except String ((Purpose × Mode ⊕ Mode) × List Char) := do
    let (purpose, rest) ← readName mark rest
    found purpose rest
  match chars with
  | ':' :: rest => found .plain rest
  | '=' :: rest => found (.ahead false) rest
  | '!' :: rest => found (.ahead true) rest
  | '<' :: '=' :: rest => found (.behind false) rest
  | '<' :: '!' :: rest => found (.behind true) rest
  | '>' :: rest => found .atomic rest
  | '|' :: rest => found .plain rest
  | '<' :: rest => named '>' rest
  | 'P' :: '<' :: rest => named '>' rest
  | '\'' :: rest => named '\'' rest
  | [] => throw "missing closing parenthesis"
  | _ =>
      let (mode, rest) ← readMode true mode chars
      match rest with
      | ':' :: rest => pure (.inl (.plain, mode), rest)
      | _ :: rest => pure (.inr mode, rest)
      | [] => throw "missing closing parenthesis"

/-- The regular expression of a group. -/
def grouped (purpose : Purpose) (number : Nat) (body : OrderedRegex) :
    Except String OrderedRegex :=
  match purpose with
  | .numbered _ => .ok (.group number body)
  | .plain => .ok (.sequence .empty body)
  | .ahead inverted => .ok (.ahead body inverted)
  | .behind inverted =>
      if body.hasFixedChoices then .ok (.behind body inverted)
      else .error "lookbehind assertion is not fixed length"
  | .atomic => .ok (.atomic body)

mutual

/-- Alternatives, up to the end of a group or of everything; the number bounds the steps. -/
def readAlternatives : Nat -> Reading -> List Char -> Except String Outcome
  | 0, _, _ => .error "regular expression is too large"
  | fuel + 1, reading, chars => do
      let (first, reading, rest) ← readSequence fuel reading chars
      match rest with
      | '|' :: rest =>
          let (second, reading, rest) ← readAlternatives fuel reading rest
          pure (.choice first second, reading, rest)
      | _ => pure (first, reading, rest)

/-- One after another, up to the end of an alternative; the number bounds the steps. -/
def readSequence : Nat -> Reading -> List Char -> Except String Outcome
  | 0, _, _ => .error "regular expression is too large"
  | fuel + 1, reading, chars =>
      match afterGap reading.mode (chars.length + 1) chars with
      | [] => .ok (.empty, reading, [])
      | c :: rest =>
          if c == '|' || c == ')' then .ok (.empty, reading, c :: rest)
          else if (readRepetition? (c :: rest)).isSome then
            .error "quantifier does not follow a repeatable item"
          else do
            let (first, reading, rest) ← readPart fuel reading c rest
            let (others, reading, rest) ← readSequence fuel reading rest
            pure (joined first others, reading, rest)

/-- A part with its repetition; the number bounds the steps. -/
def readPart : Nat -> Reading -> Char -> List Char -> Except String Outcome
  | 0, _, _, _ => .error "regular expression is too large"
  | fuel + 1, reading, c, rest =>
      match c, rest with
      | '(', '?' :: '#' :: rest =>
          match rest.dropWhile (· != ')') with
          | _ :: rest => .ok (.empty, reading, rest)
          | [] => .error "missing ) after (?# comment"
      | '(', '?' :: rest => do
          let (purpose, rest) ← readPurpose reading.mode rest
          match purpose with
          | .inr mode => pure (.empty, { reading with mode }, rest)
          | .inl (purpose, mode) => do
              let outer := reading.mode
              let number := reading.groups + 1
              let reading :=
                match purpose with
                | .numbered (some name) =>
                    { reading with groups := number, names := (name, number) :: reading.names }
                | .numbered none => { reading with groups := number }
                | _ => reading
              let (body, reading, rest) ← readAlternatives fuel { reading with mode } rest
              match rest with
              | ')' :: rest => do
                  let regex ← grouped purpose number body
                  repeated regex { reading with mode := outer } rest
              | _ => throw "missing closing parenthesis"
      | '(', _ => do
          let outer := reading.mode
          let number := reading.groups + 1
          let (body, reading, rest) ←
            readAlternatives fuel { reading with groups := number } rest
          match rest with
          | ')' :: rest => repeated (.group number body) { reading with mode := outer } rest
          | _ => throw "missing closing parenthesis"
      | '[', _ => do
          let (regex, reading, rest) ← readSet reading rest
          repeated regex reading rest
      | '\\', 'Q' :: rest => .ok (.empty, reading, rest)
      | '\\', 'E' :: rest => .ok (.empty, reading, rest)
      | '\\', _ => do
          let (regex, reading, rest) ← readEscape reading rest
          repeated regex reading rest
      | '.', _ =>
          let members := if reading.mode.dotsAll then [] else [Member.range '\n' '\n']
          repeated (.set members true false) reading rest
      | '^', _ => repeated (.anchor .lineStart) reading rest
      | '$', _ => repeated (.anchor .lineEnd) reading rest
      | _, _ => repeated (itself reading.mode c) reading rest

end

/-- Characters up to the end of a quotation with backslashes before them, and what is left. -/
def quoteAll : List Char -> List Char × List Char
  | [] => ([], [])
  | '\\' :: 'E' :: rest => ([], rest)
  | c :: rest =>
      let (quoted, after) := quoteAll rest
      (if c.isAlphanum then c :: quoted else '\\' :: c :: quoted, after)

/-- Characters with a backslash before each one that is quoted; the number bounds the steps. -/
def unquoted : Nat -> List Char -> List Char
  | 0, chars => chars
  | fuel + 1, chars =>
      match chars with
      | '\\' :: 'Q' :: rest =>
          let (quoted, after) := quoteAll rest
          quoted ++ unquoted fuel after
      | '\\' :: c :: rest => '\\' :: c :: unquoted fuel rest
      | c :: rest => c :: unquoted fuel rest
      | [] => []

/-- Read a regular expression, or say what is wrong with it. -/
def read (foldsCase : Bool) (text : String) : Except String OrderedRegex := do
  let chars := unquoted (text.length + 1) text.toList
  let start : Reading := { mode := { foldsCase } }
  let (regex, reading, rest) ← readAlternatives (4 * chars.length + 8) start chars
  match rest with
  | ')' :: _ => throw "unmatched closing parenthesis"
  | _ =>
      if reading.groups < reading.greatest then throw "reference to non-existent subpattern"
      pure regex

end OrderedRegex
end CameraFleet
