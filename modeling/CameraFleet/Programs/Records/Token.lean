import CameraFleet.Number.Quantity
import CameraFleet.Programs.Escape
import CameraFleet.Programs.Records.Syntax
import CameraFleet.Text.Regex.Reader

/-!
# Tokens of scripts

A script is cut into tokens. What a slash and a greater-than sign mean depends on
what stands before them.
-/

namespace CameraFleet
namespace Programs
namespace Records

/-- A word with a meaning of its own. -/
inductive Keyword
  /-- Before the first record. -/
  | start
  /-- End a loop. -/
  | leave
  /-- Go on with a loop. -/
  | again
  /-- Take away an element. -/
  | delete
  /-- Before the body of a loop. -/
  | body
  /-- Before what is done otherwise. -/
  | otherwise
  /-- After the last record. -/
  | finish
  /-- End the script. -/
  | exit
  /-- Before the head of a loop. -/
  | each
  /-- Before a function. -/
  | define
  /-- Read a line. -/
  | getline
  /-- Before a condition. -/
  | condition
  /-- Between a key and an array. -/
  | within
  /-- The length of a text. -/
  | length
  /-- Go on with the next record. -/
  | next
  /-- Go on with the next file. -/
  | nextFile
  /-- Print values. -/
  | print
  /-- Print by a format. -/
  | printFormat
  /-- End a function. -/
  | result
  /-- Before the condition of a loop. -/
  | during
  deriving Repr, DecidableEq

/-- The keywords, with the words by which they are written. -/
def keywords : List (Octets × Keyword) :=
  [("BEGIN", .start), ("END", .finish), ("break", .leave), ("continue", .again),
    ("delete", .delete), ("do", .body), ("else", .otherwise), ("exit", .exit), ("for", .each),
    ("function", .define), ("getline", .getline), ("if", .condition), ("in", .within),
    ("length", .length), ("next", .next), ("nextfile", .nextFile), ("print", .print),
    ("printf", .printFormat), ("return", .result), ("while", .during)]

/-- The functions that every script has, each with its name and the numbers of its arguments. -/
def builtins : List (Octets × Builtin × Nat × Nat) :=
  [("atan2", .angle, 2, 2), ("close", .close, 1, 1), ("cos", .cosine, 1, 1),
    ("exp", .exponential, 1, 1), ("fflush", .flush, 0, 1), ("gsub", .replaceAll, 2, 3),
    ("index", .index, 2, 2), ("int", .whole, 1, 1), ("log", .logarithm, 1, 1),
    ("match", .find, 2, 2), ("mktime", .dateNumber, 1, 1), ("rand", .random, 0, 0),
    ("sin", .sine, 1, 1), ("split", .split, 2, 3), ("sprintf", .format, 1, 255),
    ("sqrt", .root, 1, 1), ("srand", .seed, 0, 1), ("strftime", .date, 0, 3),
    ("sub", .replace, 2, 3), ("substr", .part, 2, 3), ("system", .run, 1, 1),
    ("systime", .now, 0, 0), ("tolower", .lower, 1, 1), ("toupper", .upper, 1, 1)]

/-- A token. -/
inductive Token
  /-- The end of a line. -/
  | newline
  /-- A sign. -/
  | sign (text : Octets)
  /-- A sign after which it is said where something is printed. -/
  | redirection (how : Redirection)
  /-- A number, with how it is written. -/
  | number (value : Floating) (text : Octets)
  /-- A text. -/
  | text (text : Octets)
  /-- A regular expression. -/
  | pattern (pattern : Pattern)
  /-- A keyword. -/
  | keyword (keyword : Keyword) (text : Octets)
  /-- The name of a function that every script has. -/
  | builtin (function : Builtin) (text : Octets) (least most : Nat)
  /-- A name. -/
  | name (text : Octets)
  /-- The name of a function, with its arguments after it. -/
  | callee (text : Octets)
  /-- Something that cannot stand there, with what is wrong with it. -/
  | wrong (reason : Octets)
  /-- The end of the script. -/
  | stop
  deriving Repr, DecidableEq

/-- How a token is called in complaints. -/
def Token.shown : Token -> Octets
  | .newline => "end of line"
  | .sign word | .number _ word | .text word | .keyword _ word | .builtin _ word _ _ | .name word
  | .callee word | .wrong word => word
  | .redirection .writing => ">"
  | .redirection .appending => ">>"
  | .redirection .command => "|"
  | .pattern regex => s!"/{regex.text}/"
  | .stop => "end of file"

/-- A token with the number of its line. -/
structure Placed where
  /-- The token. -/
  token : Token
  /-- The number of the line. -/
  line : Nat
  /-- How many parentheses are open. -/
  depth : Nat := 0
  deriving Repr, DecidableEq

/-- What is wrong with a script, and the number of the line. -/
structure Mistake where
  /-- The text that says it. -/
  text : Octets
  /-- The number of the line. -/
  line : Nat
  deriving Repr, DecidableEq

/-! ## Regular expressions -/

namespace Pattern

/-- A character after a backslash, and how many characters are used. -/
def escapedChar (rest : List Char) : Char × Nat :=
  match rest with
  | [] => ('\\', 0)
  | c :: after =>
      let octal := (Numeral.digits 8 (rest.take 3)).1
      let hexadecimal := if c == 'x' then (Numeral.digits 16 (after.take 2)).1 else []
      let byte (base : Nat) (digits : List Nat) : Char :=
        Char.ofNat (Numeral.valueOf base digits % 256)
      if !octal.isEmpty then (byte 8 octal, octal.length)
      else if !hexadecimal.isEmpty then (byte 16 hexadecimal, hexadecimal.length + 1)
      else
        match ['a', 'b', 'f', 'n', 'r', 't', 'v'].contains c, Escape.letters.lookup c with
        | true, some other => (other, 1)
        | _, _ => (c, 1)

/-- A character that stands for itself outside of a set. -/
def alone (c : Char) : List Char :=
  if ".[]()*+?\x7b\x7d|^$\\".toList.contains c then ['\\', c] else [c]

/-- A character that stands for itself in a set. -/
def inSet (c : Char) : List Char :=
  ['[', '.', c, '.', ']']

/-- A set after its opening bracket, with escapes replaced; the number bounds the characters. -/
def setOn : Nat -> Bool -> List Char -> List Char × List Char
  | 0, _, chars => ([], chars)
  | fuel + 1, isFirst, chars =>
      match chars with
      | [] => ([], [])
      | '\\' :: rest =>
          let (c, used) := escapedChar rest
          let (body, after) := setOn fuel false (rest.drop used)
          (inSet c ++ body, after)
      | '[' :: ':' :: rest =>
          let (body, after) := setOn fuel false rest
          ('[' :: ':' :: body, after)
      | ':' :: ']' :: rest =>
          let (body, after) := setOn fuel false rest
          (':' :: ']' :: body, after)
      | '^' :: rest =>
          let (body, after) := setOn fuel isFirst rest
          ('^' :: body, after)
      | c :: rest =>
          if c == ']' && !isFirst then ([']'], rest)
          else
            let (body, after) := setOn fuel false rest
            (c :: body, after)

/-- A written regular expression with escapes replaced; the number bounds the characters. -/
def plainOn : Nat -> List Char -> List Char
  | 0, _ | _, [] => []
  | _, ['\\'] => ['\\', '\\']
  | fuel + 1, '\\' :: rest =>
      let (c, used) := escapedChar rest
      alone c ++ plainOn fuel (rest.drop used)
  | fuel + 1, '[' :: rest =>
      let (body, after) := setOn (rest.length + 1) true rest
      '[' :: body ++ plainOn fuel after
  | fuel + 1, c :: rest => c :: plainOn fuel rest

/-- What comes before a place of a regular expression. -/
inductive Before
  /-- Nothing that could be repeated. -/
  | nothing
  /-- The start of a line. -/
  | start
  /-- Something. -/
  | something
  deriving Repr, DecidableEq

/-- What is wrong with the operators of a regular expression, if anything is. -/
def fault? : Nat -> Nat -> Before -> List Char -> Option Octets
  | 0, _, _, _ => none
  | _, depth, before, [] =>
      if 0 < depth then some "missing ')'"
      else if before == .nothing then some "missing operand"
      else none
  | fuel + 1, depth, before, c :: rest =>
      match c with
      | '\\' => fault? fuel depth .something (rest.drop 1)
      | '[' =>
          let (body, after) := setOn (rest.length + 1) true rest
          if body.getLast? == some ']' then fault? fuel depth .something after
          else some "bad class -- [], [^] or ["
      | '(' => fault? fuel (depth + 1) .nothing rest
      | ')' =>
          if depth = 0 then fault? fuel 0 .something rest
          else if before == .nothing then some "missing operand"
          else fault? fuel (depth - 1) .something rest
      | '|' =>
          if before == .nothing then some "missing operand" else fault? fuel depth .nothing rest
      | '*' | '+' | '?' =>
          match before with
          | .nothing => some "missing operand"
          | .start => some "syntax error ^* or ^+"
          | .something => fault? fuel depth .something rest
      | '^' => fault? fuel depth .start rest
      | _ => fault? fuel depth .something rest

/-- How regular expressions are written. -/
def dialect : Regex.Dialect :=
  { extended := true, stray := .literal, emptyRanges := true, looseGroups := true
    looseCounts := true }

/-- The regular expression that a text describes. -/
def read (text : Octets) : Except Octets Pattern :=
  let chars := text.toList
  if chars.isEmpty then .ok { text, regex := .empty }
  else
    let fault := fun (reason : Octets) =>
      s!"regular expression compile failed ({reason})\n{text}"
    match fault? (chars.length + 1) 0 .nothing chars with
    | some reason => .error (fault reason)
    | none =>
        match Regex.read dialect (String.ofList (plainOn (chars.length + 1) chars)) with
        | .ok regex => .ok { text, regex }
        | .error .count | .error .size | .error .openCount =>
            .error (fault "bad interval expression")
        | .error _ => .error (fault "bad class -- [], [^] or [")

end Pattern

/-! ## Cutting -/

namespace Scan

/-- What has been seen of a script. -/
structure State where
  /-- The number of the line. -/
  line : Nat := 1
  /-- The latest token. -/
  latest : Token := .newline
  /-- Whether this is a statement that prints. -/
  prints : Bool := false
  /-- How many parentheses are open. -/
  depth : Nat := 0
  /-- How many braces are open. -/
  braces : Nat := 0

/-- Whether a slash after a token divides. -/
def precedesDivision : Token -> Bool
  | .number _ _ | .text _ | .name _ | .pattern _ | .keyword .getline _ | .keyword .length _ => true
  | .sign text => [")", "]", "++", "--", "$"].contains text
  | _ => false

/-- Whether the ends of lines after a token mean nothing. -/
def swallowsLines : Token -> Bool
  | .newline | .keyword .body _ | .keyword .otherwise _ => true
  | .sign text => ["\x7b", "&&", "||", ",", ";"].contains text
  | _ => false

/-- The text after a quotation mark, the lines in it, and the characters after it. -/
def textOn : Nat -> List Char -> Nat -> List Char -> Option (List Char × Nat × List Char)
  | 0, _, _, _ => none
  | fuel + 1, sofar, lines, chars =>
      match chars with
      | [] | '\n' :: _ => none
      | '"' :: rest => some (sofar.reverse, lines, rest)
      | '\\' :: '\n' :: rest => textOn fuel sofar (lines + 1) rest
      | '\\' :: rest =>
          match rest with
          | '"' :: after => textOn fuel ('"' :: sofar) lines after
          | '\\' :: after => textOn fuel ('\\' :: sofar) lines after
          | [] => none
          | c :: after =>
              let (char, used) := Pattern.escapedChar rest
              if char == c && used = 1 then textOn fuel (c :: '\\' :: sofar) lines after
              else textOn fuel (char :: sofar) lines (rest.drop used)
      | c :: rest => textOn fuel (c :: sofar) lines rest

/-- The regular expression after a slash, and the characters after it. -/
def patternOn : Nat -> List Char -> Bool -> List Char -> Option (List Char × List Char)
  | 0, _, _, _ => none
  | fuel + 1, sofar, inSet, chars =>
      match chars with
      | [] | '\n' :: _ => none
      | '\\' :: '/' :: rest => patternOn fuel ('/' :: sofar) inSet rest
      | '\\' :: '\n' :: rest => patternOn fuel sofar inSet rest
      | '\\' :: c :: rest => patternOn fuel (c :: '\\' :: sofar) inSet rest
      | '/' :: rest => if inSet then patternOn fuel ('/' :: sofar) true rest
          else some (sofar.reverse, rest)
      | c :: rest =>
          let isFirst := sofar.head? == some '[' || sofar.take 2 == ['^', '[']
          let inSet := if c == '[' then true else if c == ']' && !isFirst then false else inSet
          patternOn fuel (c :: sofar) inSet rest

/-- The rest of a line, for a complaint. -/
def restOfLine (chars : List Char) : Octets :=
  let line := chars.takeWhile (· != '\n')
  String.ofList (line.take 40)

/-- Whether a character starts a name. -/
def startsName (c : Char) : Bool :=
  c.isAlpha || c == '_'

/-- Whether a character belongs to a name. -/
def isInName (c : Char) : Bool :=
  c.isAlphanum || c == '_'

/-- The token that a word is. -/
def wordToken
    (functions : List Octets)
    (word : Octets)
    (after : List Char) : Token :=
  match keywords.lookup word, builtins.lookup word with
  | some keyword, _ => .keyword keyword word
  | none, some (function, least, most) => .builtin function word least most
  | none, none =>
      let isCall :=
        after.head? == some '(' ||
          (functions.contains word &&
            (after.dropWhile fun c => c == ' ' || c == '\t').head? == some '(')
      if isCall then .callee word else .name word

/-- The signs of two or three characters. -/
def longSigns : List Octets :=
  ["&&", "||", "==", "<=", ">=", "!=", "!~", "++", "--", "+=", "-=", "*=", "/=", "%=", "^="]

/-- The signs of one character. -/
def shortSigns : List Char :=
  "\x7b\x7d()[];,+-*/%^!<>=~?:$|".toList

/-- The sign at the start of some characters. -/
def sign? (chars : List Char) : Option (Octets × List Char) :=
  match longSigns.find? fun sign => sign.toList.isPrefixOf chars, chars with
  | some sign, _ => some (sign, chars.drop sign.length)
  | none, c :: rest => if shortSigns.contains c then some (String.singleton c, rest) else none
  | none, [] => none

/-- A number at the start of some characters, if there is one. -/
def number? (chars : List Char) : Option (Token × List Char) :=
  match chars with
  | c :: rest =>
      if c.isDigit || (c == '.' && rest.head?.any Char.isDigit) then
        (Quantity.fraction? 10 chars).map fun (digits, places, rest) =>
          let (exponent, rest) := Quantity.exponent? ['e', 'E'] rest
          let quantity := Quantity.scaled false digits 1 10 (exponent - places)
          let used := chars.take (chars.length - rest.length)
          (.number (Floating.ofQuantity quantity) (String.ofList used), rest)
      else none
  | [] => none

/-- How a sign changes what has been seen, and what it is. -/
def State.withSign (state : State) (sign : Octets) : State × Token :=
  let out (how : Redirection) : State × Token :=
    ({ state with prints := false }, .redirection how)
  match sign with
  | "(" => ({ state with depth := state.depth + 1 }, .sign sign)
  | ")" => ({ state with depth := state.depth - 1 }, .sign sign)
  | "\x7b" => ({ state with braces := state.braces + 1 }, .sign sign)
  | "\x7d" => ({ state with braces := state.braces - 1, prints := false }, .sign sign)
  | ";" => ({ state with prints := false }, .sign sign)
  | ">" => if state.prints && state.depth = 0 then out .writing else (state, .sign sign)
  | "|" => if state.prints && state.depth = 0 then out .command else (state, .sign sign)
  | _ => (state, .sign sign)

/-- The tokens of a script; the first number bounds them. -/
def tokensOn
    (functions : List Octets) :
    Nat -> State -> List Char -> List Placed -> List Placed
  | 0, _, _, sofar => sofar.reverse
  | fuel + 1, state, chars, sofar =>
      let put (state : State) (token : Token) (rest : List Char) : List Placed :=
        tokensOn functions fuel { state with latest := token } rest
          ({ token, line := state.line, depth := state.depth } :: sofar)
      let wrong (reason : Octets) : List Placed :=
        ({ token := .wrong reason, line := state.line } :: sofar).reverse
      match chars with
      | [] => ({ token := .stop, line := state.line } :: sofar).reverse
      | '\n' :: rest =>
          let next := { state with line := state.line + 1, prints := false }
          if swallowsLines state.latest then tokensOn functions fuel next rest sofar
          else
            tokensOn functions fuel { next with latest := .newline } rest
              ({ token := .newline, line := state.line, depth := state.depth } :: sofar)
      | '\\' :: '\n' :: rest =>
          tokensOn functions fuel { state with line := state.line + 1 } rest sofar
      | '#' :: rest => tokensOn functions fuel state (rest.dropWhile (· != '\n')) sofar
      | '"' :: rest =>
          match textOn (rest.length + 1) [] 0 rest with
          | some (text, lines, after) =>
              put { state with line := state.line + lines } (.text (String.ofList text)) after
          | none => wrong s!"runaway string constant \x22{restOfLine rest} ..."
      | '/' :: rest =>
          if precedesDivision state.latest then
            match rest with
            | '=' :: after => put state (.sign "/=") after
            | _ => put state (.sign "/") rest
          else
            match patternOn (rest.length + 1) [] false rest with
            | none => wrong s!"runaway regular expression /{restOfLine rest} ..."
            | some (text, after) =>
                match Pattern.read (String.ofList text) with
                | .ok pattern => put state (.pattern pattern) after
                | .error reason => wrong reason
      | '>' :: '>' :: rest =>
          if state.prints && state.depth = 0 then
            put { state with prints := false } (.redirection .appending) rest
          else put state (.sign ">") ('>' :: rest)
      | c :: rest =>
          if c == ' ' || c == '\t' || c == '\r' || c == '\x0b' || c == '\x0c' then
            tokensOn functions fuel state rest sofar
          else if startsName c then
            let word := String.ofList (chars.takeWhile isInName)
            let after := chars.dropWhile isInName
            let token := wordToken functions word after
            match token with
            | .keyword .print _ | .keyword .printFormat _ =>
                put { state with prints := true, depth := 0 } token after
            | _ => put state token after
          else
            match number? chars, sign? chars with
            | some (token, after), _ => put state token after
            | none, some (sign, after) =>
                if sign == "\x7d" && state.braces = 0 then wrong "extra '\x7d'"
                else if sign == ")" && state.depth = 0 then wrong "extra ')'"
                else
                  let (next, token) := state.withSign sign
                  put next token after
            | none, none => wrong s!"unexpected character '{c}'"

/-- The names after the word for a function. -/
def functionNames : Nat -> List Char -> List Octets
  | 0, _ => []
  | fuel + 1, chars =>
      let rest := chars.dropWhile (!startsName ·)
      if rest.isEmpty then []
      else
        let word := String.ofList (rest.takeWhile isInName)
        let after := rest.dropWhile isInName
        if word == "function" then
          let next := after.dropWhile fun c => c == ' ' || c == '\t'
          String.ofList (next.takeWhile isInName) :: functionNames fuel next
        else functionNames fuel after

/-- The tokens of a script. -/
def tokens (text : Octets) : List Placed :=
  let chars := text.toList
  tokensOn (functionNames (chars.length + 1) chars) (chars.length + 2) {} chars []

end Scan
end Records
end Programs
end CameraFleet
