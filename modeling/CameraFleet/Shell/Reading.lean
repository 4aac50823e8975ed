import CameraFleet.Programs.Escape
import CameraFleet.Shell.Token

/-!
# Steps of reading

What is read of a script is a function of the characters that are left. The
texts that commands read from the script itself are collected by number as they
are met. The two forms of the language tell of mistakes in their own ways: the
extended one shows the line on which the script goes wrong.
-/

namespace CameraFleet
namespace Shell

/-- A text within the script that has been announced, but not met yet. -/
structure Announced where
  /-- Its number. -/
  number : Nat
  /-- The line that ends it. -/
  mark : Octets
  /-- Whether tabs at the start of its lines do not count. -/
  stripsTabs : Bool
  /-- Whether it stands for itself. -/
  literal : Bool
  /-- The line on which it was announced. -/
  line : Nat

/-- How a redirection starts. -/
inductive Opening
  /-- With a file. -/
  | file (descriptor : Nat) (use : FileUse)
  /-- With another descriptor; without one, it may be a file for both outputs. -/
  | duplicate (descriptor : Nat) (maybeFile : Bool)
  /-- With a text of the script. -/
  | document (descriptor : Nat) (stripsTabs : Bool)
  /-- With a line. -/
  | line (descriptor : Nat)
  /-- With a file for both outputs. -/
  | outputs (appends : Bool)
  deriving Inhabited

/-- A word that stands for a text, which is being read. -/
structure Underway where
  /-- The word. -/
  name : Octets
  /-- How many characters are left after the text. -/
  left : Nat
  /-- Whether the text ends with a blank. -/
  endsBlank : Bool

/-- What has a meaning of its own among words. -/
inductive Heed
  /-- Nothing has. -/
  | words
  /-- Words that stand for other words have. -/
  | aliases
  /-- Keywords have. -/
  | keywords
  /-- Both have. -/
  | all
  /-- Assignments have. -/
  | assignments
  deriving Repr, DecidableEq

/-- Whether keywords count. -/
def Heed.seesKeywords (heed : Heed) : Bool :=
  heed == .keywords || heed == .all

/-- Whether words that stand for other words count. -/
def Heed.seesAliases (heed : Heed) : Bool :=
  heed == .aliases || heed == .all

/-- Whether assignments may come here; they may come before a command. -/
def Heed.seesAssignments (heed : Heed) : Bool :=
  heed != .words

/-- Let words that stand for other words count, too. -/
def Heed.withAliases (heed : Heed) : Heed :=
  if heed.seesKeywords then .all else .aliases

/-- Something that has to be closed. -/
structure Opened where
  /-- The character that closes it. -/
  mark : Char
  /-- The line on which it was opened. -/
  line : Nat
  /-- Whether there are commands in it. -/
  isScript : Bool := false
  /-- The status of a shell that does not find it closed. -/
  status : Nat := 2

/-- The state of reading. -/
structure Reader where
  /-- The language. -/
  language : Language := .plain
  /-- The whole text, whose end is left. -/
  whole : List Char := []
  /-- The line on which the whole text starts. -/
  firstLine : Nat := 1
  /-- The characters that are left. -/
  rest : List Char
  /-- The line. -/
  line : Nat := 1
  /-- The last token. -/
  token : Token := .finish
  /-- Whether the last token is to be read again. -/
  again : Bool := false
  /-- The word, if the last token is one. -/
  word : Word := []
  /-- Whether any of the word was quoted. -/
  quoted : Bool := false
  /-- How the redirection starts, if the last token is one. -/
  opening : Opening := .duplicate 0 false
  /-- The characters that were left before the last token. -/
  before : List Char := []
  /-- What has to be closed, the innermost only. -/
  opened : Option Opened := none
  /-- Whether patterns may have groups. -/
  groups : Bool := false
  /-- What is to be said of texts that did not end, with the line. -/
  warnings : List (Nat × Octets) := []
  /-- The texts that have been announced, in order. -/
  announced : List Announced := []
  /-- The texts that have been met. -/
  documents : List (Nat × Word) := []
  /-- The number for the next text. -/
  next : Nat := 0
  /-- The words that stand for other words at the start of a command. -/
  aliases : List (Octets × Octets) := []
  /-- The words of this kind whose texts are being read. -/
  underway : List Underway := []

namespace Reader

/-- The characters that have been read. -/
def taken (reader : Reader) : List Char :=
  reader.whole.take (reader.whole.length - reader.rest.length)

/-- How many lines end in some characters. -/
def lineCount (chars : List Char) : Nat :=
  chars.countP (· == '\n')

/-- The number of the line on which the last character was read. -/
def lastLine (reader : Reader) : Nat :=
  reader.firstLine + lineCount reader.taken.dropLast

/-- The line on which the last character was read. -/
def source (reader : Reader) : Octets :=
  let before := reader.taken.dropLast
  let start := (before.reverse.takeWhile (· != '\n')).reverse
  let rest := (reader.whole.drop before.length).takeWhile (· != '\n')
  String.ofList (start ++ rest)

/-- The text of the last token, or its name if it has none. -/
def tokenText (reader : Reader) : Octets :=
  let text := reader.before.take (reader.before.length - reader.rest.length)
  match reader.token with
  | .newline => "newline"
  | .redirection =>
      let digits := text.takeWhile Char.isDigit
      String.ofList (if digits.isEmpty then text else digits)
  | _ => String.ofList text

end Reader

/-- A step of reading. -/
abbrev Reading := StateT Reader (Except SyntaxError)

namespace Reading

/-- The script is wrong here, as the plain language says. -/
def fail (text : Octets) : Reading α := do
  throw { line := (← get).line, texts := ["Syntax error: " ++ text] }

/-- The script ends before something is closed. -/
def failUnclosed
    (opened : Opened)
    (line : Nat) : Reading α :=
  throw
    { line, status := opened.status
      texts := [s!"unexpected EOF while looking for matching \x60{opened.mark}'"] }

/-- Something is not closed; the plain language has a text for it. -/
def unclosed (text : Octets) : Reading α := do
  let reader ← get
  match reader.language, reader.opened with
  | .extended, some opened => failUnclosed opened opened.line
  | _, _ => fail text

/-- Something is wrong with the line on which the script is. -/
def failHere (texts : List Octets) : Reading α := do
  let reader ← get
  throw { line := reader.lastLine, texts := texts ++ [s!"\x60{reader.source}'"] }

/-- The last token should not be here; perhaps another one should. -/
def unexpected (wanted : Option Token) : Reading α := do
  let reader ← get
  let found := reader.token.name
  match reader.language, wanted with
  | .plain, some token => fail s!"{found} unexpected (expecting {token.name})"
  | .plain, none => fail s!"{found} unexpected"
  | .extended, _ =>
      if reader.token == .finish then
        match reader.opened.filter (·.isScript) with
        | some opened => failUnclosed opened reader.line
        | none => throw { line := reader.line, texts := ["syntax error: unexpected end of file"] }
      else failHere [s!"syntax error near unexpected token \x60{reader.tokenText}'"]

/-- Whether the language is the extended one. -/
def isExtended : Reading Bool := do
  pure ((← get).language == .extended)

/-- Read something that is closed by a mark. -/
def within
    (opened : Opened)
    (body : Reading α) : Reading α := do
  let outer := (← get).opened
  modify ({ · with opened := some opened })
  let value ← body
  modify ({ · with opened := outer })
  pure value

/-- Read something that is closed by a character, and that starts here. -/
def enclosed
    (mark : Char)
    (body : Reading α) : Reading α := do
  within { mark, line := (← get).line } body

/-- Read something, or nothing if it is wrong. -/
def attempt (body : Reading α) : Reading (Option α) := do
  let before ← get
  match body.run before with
  | .ok (value, after) => do
      set after
      pure (some value)
  | .error _ => pure none

/-- Read something, or nothing if it is wrong; it is not wrong just because the script ends. -/
def attemptToEnd (body : Reading α) : Reading (Option α) := do
  let before ← get
  match body.run before with
  | .ok (value, after) => do
      set after
      pure (some value)
  | .error error =>
      if error.texts.any (·.startsWith "unexpected EOF") then throw error else pure none

/-- Characters without the line breaks that follow a backslash at their start, and their number. -/
def skipJoins : List Char -> Nat -> List Char × Nat
  | '\\' :: '\n' :: rest, count => skipJoins rest (count + 1)
  | rest, count => (rest, count)

/-- Skip line breaks that follow a backslash. -/
def skipLineJoins : Reading Unit :=
  modify fun reader =>
    let (rest, joined) := skipJoins reader.rest 0
    { reader with rest, line := reader.line + joined }

/-- The next character, which is left where it is. -/
def peek : Reading (Option Char) := do
  skipLineJoins
  pure (← get).rest.head?

/-- Skip a character; a line break counts. -/
def skip : Reading Unit :=
  modify fun reader =>
    match reader.rest with
    | '\n' :: rest => { reader with rest, line := reader.line + 1 }
    | _ :: rest => { reader with rest }
    | [] => reader

/-- Whether these characters come next. -/
def sees (text : String) : Reading Bool := do
  skipLineJoins
  pure (text.toList.isPrefixOf (← get).rest)

/-- Take the next character if it is this one. -/
def takes (c : Char) : Reading Bool := do
  if (← peek) == some c then
    skip
    pure true
  else pure false

/-- Note that something is quoted. -/
def noteQuoted : Reading Unit :=
  modify ({ · with quoted := true })

/-- Read the last token again. -/
def pushBack : Reading Unit :=
  modify ({ · with again := true })

/-- Where the parts of a word stand. -/
inductive Context
  /-- In a word. -/
  | word
  /-- Within the braces of a parameter. -/
  | braces
  /-- Between double quotes. -/
  | quotes
  /-- Within the braces of a parameter between double quotes, perhaps in quotes of their own. -/
  | quotedBraces (inner : Bool)
  /-- In a text of the script. -/
  | document
  /-- In an expression, within so many parentheses. -/
  | expression (depth : Nat)
  /-- In an expression that some characters end, within so many parentheses. -/
  | term (enders : List Char) (depth : Nat)
  /-- In a pattern that a slash ends, or the braces of a parameter. -/
  | pattern
  /-- In brackets, and so many more. -/
  | key (depth : Nat)
  /-- In a group of patterns. -/
  | group
  /-- In an expression that texts are compared with, within so many parentheses. -/
  | regex (depth : Nat)
  deriving DecidableEq

/-- Whether texts in a context are quoted. -/
def Context.isQuoted : Context -> Bool
  | .word | .braces | .pattern | .key _ | .group | .regex _ => false
  | .quotes | .quotedBraces _ | .document | .expression _ | .term .. => true

/-- Whether a character ends a word. -/
def endsWord (c : Char) : Bool :=
  " \t\n;&|<>()".toList.contains c

/-- Take characters of a name. -/
def takeName (condition : Char -> Bool) : Nat -> Reading (List Char)
  | 0 => pure []
  | count + 1 => do
      match ← peek with
      | some c =>
          if condition c then
            skip
            pure (c :: (← takeName condition count))
          else pure []
      | none => pure []

/-- Whether a text with a blank at its end, for which a word stood, has been left. -/
def leavesWithBlank : Reading Bool := do
  let reader ← get
  let left := reader.rest.length
  set { reader with underway := reader.underway.filter (·.left ≤ left) }
  pure (reader.underway.any fun underway => left ≤ underway.left && underway.endsBlank)

/-- Go on with the text for which a word stands; whether it stands for one. -/
def beginAlias (name : Octets) : Reading Bool := do
  let reader ← get
  let isUnderway := reader.underway.any (·.name == name)
  match if isUnderway then none else reader.aliases.lookup name with
  | none => pure false
  | some text => do
      let endsBlank := text.endsWith " " || text.endsWith "\t"
      let started : Underway := { name, left := reader.rest.length, endsBlank }
      set { reader with
        rest := text.toList ++ reader.rest, underway := started :: reader.underway }
      pure true

/-- The characters up to a single quote, and those after it. -/
def takeLiteral : List Char -> List Char -> Option (List Char × List Char)
  | [], _ => none
  | '\'' :: rest, taken => some (taken.reverse, rest)
  | c :: rest, taken => takeLiteral rest (c :: taken)

/-- The use that an operator after a parameter's name stands for. -/
def useOf (operator : Char) (orEmpty : Bool) : Use :=
  if operator == '-' then .otherwise orEmpty
  else if operator == '=' then .assign orEmpty
  else if operator == '?' then .demand orEmpty
  else if operator == '+' then .instead orEmpty
  else .wrong

/-- Read the operator after a parameter's name in braces. -/
def readUse : Reading Use := do
  match ← peek with
  | some '\x7d' => pure .plain
  | some ':' => do
      skip
      match ← peek with
      | some c =>
          let use := useOf c true
          if use == .wrong then pure .wrong
          else
            skip
            pure use
      | none => pure .wrong
  | some '#' => do
      skip
      if ← takes '#' then pure (.trimStart true) else pure (.trimStart false)
  | some '%' => do
      skip
      if ← takes '%' then pure (.trimEnd true) else pure (.trimEnd false)
  | some c =>
      let use := useOf c false
      if use == .wrong then pure .wrong
      else
        skip
        pure use
  | none => pure .wrong

/-- The most characters of a name, which no name reaches. -/
def longName : Nat := 1000000

/-- Read the name of a parameter in braces, and the use of its value. -/
def readNameInBraces : Reading (Octets × Use) := do
  let named (name : List Char) (use : Use) : Reading (Octets × Use) :=
    pure (String.ofList name, use)
  let lengthOf (name : List Char) : Reading (Octets × Use) := do
    if (← peek) == some '\x7d' then named name .length else named name .wrong
  match ← peek with
  | none => named [] .wrong
  | some c =>
      if startsName c then
        let name ← takeName isInName longName
        named name (← readUse)
      else if c.isDigit then
        let name ← takeName Char.isDigit longName
        named name (← readUse)
      else if c == '\x7d' then named [] .wrong
      else
        skip
        if c == '#' then
          match ← peek with
          | some d =>
              if startsName d then lengthOf (← takeName isInName longName)
              else if d.isDigit then lengthOf (← takeName Char.isDigit longName)
              else if d == '\x7d' then named ['#'] .plain
              else if isSpecialName d then
                let before ← get
                skip
                if (← peek) == some '\x7d' then named [d] .length
                else
                  set before
                  named ['#'] (← readUse)
              else named ['#'] (← readUse)
          | none => named ['#'] .wrong
        else if isSpecialName c then named [c] (← readUse)
        else named [] .wrong

/-- The characters between back quotes, whose backslashes are taken away where they protect. -/
def takeBackQuoted
    (quoted : Bool) :
    List Char -> List Char -> Option (List Char × List Char)
  | [], _ => none
  | '`' :: rest, taken => some (taken.reverse, rest)
  | '\\' :: c :: rest, taken =>
      if c == '\n' then takeBackQuoted quoted rest taken
      else if c == '\\' || c == '`' || c == '$' || (quoted && c == '"') then
        takeBackQuoted quoted rest (c :: taken)
      else takeBackQuoted quoted rest (c :: '\\' :: taken)
  | c :: rest, taken => takeBackQuoted quoted rest (c :: taken)

/-- Whether a backslash protects a character in a context. -/
def protects (context : Context) (c : Char) : Bool :=
  match context with
  | .word | .braces | .pattern | .key _ | .group | .regex _ => true
  | .quotes | .expression _ | .term .. => "\\`$\"".toList.contains c
  | .quotedBraces _ => "\\`$\"\x7d".toList.contains c
  | .document => "\\`$".toList.contains c

/-- A line of characters without its end, and the characters after it. -/
def takeLine : List Char -> List Char -> List Char × List Char
  | [], taken => (taken.reverse, [])
  | '\n' :: rest, taken => (taken.reverse, rest)
  | c :: rest, taken => takeLine rest (c :: taken)

/-- Whether the last of some characters is a backslash that nothing protects. -/
def endsInBackslash (line : List Char) : Bool :=
  (line.reverse.takeWhile (· == '\\')).length % 2 == 1

/--
The body of a text of the script, up to the line that ends it, the characters
after it, and whether there was such a line.
-/
def takeDocument
    (announced : Announced)
    (joined : Bool) :
    Nat -> List Char -> List Char -> List Char × List Char × Bool
  | 0, rest, taken => (taken.reverse, rest, false)
  | lines + 1, rest, taken =>
      match rest with
      | [] => (taken.reverse, [], false)
      | _ =>
          let (line, after) := takeLine rest []
          let stripped :=
            if announced.stripsTabs && !joined then line.dropWhile (· == '\t') else line
          if !joined && stripped == announced.mark.toList then (taken.reverse, after, true)
          else
            let ended := line.length < rest.length
            let taken := stripped.reverse ++ taken
            let taken := if ended then '\n' :: taken else taken
            let joins := !announced.literal && endsInBackslash line
            takeDocument announced joins lines after taken

/-- Whether a character never has a meaning of its own within a word. -/
def isOrdinary (c : Char) : Bool :=
  c.isAlphanum || "_-./,:=%+@^!?*[]~".toList.contains c || 127 < c.toNat

/-- Whether a character may start a group of patterns. -/
def startsGroup (c : Char) : Bool :=
  "?*+@!".toList.contains c

/-- Whether runs of ordinary characters may be taken at once in a context. -/
def Context.hasRuns : Context -> Bool
  | .word | .braces | .quotes | .quotedBraces _ | .document | .expression _ => true
  | .term .. | .pattern | .key _ | .group | .regex _ => false

/-- Take ordinary characters. -/
def takeRun (context : Context) : Reading (List Char) :=
  modifyGet fun reader =>
    let goesOn (c : Char) : Bool := isOrdinary c && !(reader.groups && startsGroup c)
    if context.hasRuns then
      (reader.rest.takeWhile goesOn, { reader with rest := reader.rest.dropWhile goesOn })
    else ([], reader)

/-- Add a character to a word. -/
def addChar
    (c : Char)
    (quoted : Bool)
    (word : Word) : Word :=
  .text (String.singleton c) quoted :: word

/-- Skip some characters. -/
def skipMany : Nat -> Reading Unit
  | 0 => pure ()
  | count + 1 => do
      skip
      skipMany count

/-- Skip blanks. -/
def skipBlanks : Reading Unit :=
  modify fun reader =>
    { reader with rest := reader.rest.dropWhile fun c => c == ' ' || c == '\t' }

/-- Characters that end with a line break. -/
def endLine (chars : List Char) : List Char :=
  if chars.getLast? == some '\n' then chars else chars ++ ['\n']

/-- A script that ends with a line break, unless a backslash at its end would protect that. -/
def endScript (chars : List Char) : List Char :=
  if (chars.reverse.takeWhile (· == '\\')).length % 2 = 1 then chars else endLine chars

/-- Read the rest of a text between single quotes. -/
def readLiteral : Reading Octets := do
  noteQuoted
  match takeLiteral (← get).rest [] with
  | none => do
      modify fun reader =>
        { reader with line := reader.line + Reader.lineCount reader.rest }
      unclosed "Unterminated quoted string"
  | some (text, rest) => do
      modify fun reader =>
        { reader with rest, line := reader.line + Reader.lineCount text }
      pure (String.ofList text)

/-- The characters up to a single quote that no backslash protects, and those after it. -/
def takeEscaped : List Char -> List Char -> Option (List Char × List Char)
  | [], _ => none
  | '\'' :: rest, taken => some (taken.reverse, rest)
  | '\\' :: c :: rest, taken => takeEscaped rest (c :: '\\' :: taken)
  | c :: rest, taken => takeEscaped rest (c :: taken)

/-- Read the rest of a text between single quotes in which there are escapes. -/
def readEscaped : Reading Octets := do
  noteQuoted
  match takeEscaped (← get).rest [] with
  | none => unclosed ""
  | some (text, rest) => do
      modify fun reader =>
        { reader with rest, line := reader.line + Reader.lineCount text }
      pure (Programs.Escape.replaceAll .quotes (String.ofList text)).1

/-- The context of the word that belongs to the use of a parameter. -/
def wordContext (use : Use) (quoted : Bool) : Context :=
  match use with
  | .trimStart _ | .trimEnd _ | .recase .. => .braces
  | _ => if quoted then .quotedBraces false else .braces

/-- A parameter with its use, in the simplest form. -/
def usedPart
    (name : Octets)
    (selection : Selection)
    (indirect : Bool)
    (use : Use)
    (words : List Word)
    (quoted : Bool) : Part :=
  let isSimple : Bool :=
    match use with
    | .plain | .otherwise _ | .assign _ | .demand _ | .instead _ => true
    | .length | .trimStart _ | .trimEnd _ => name != "@" && name != "*"
    | _ => false
  match selection, indirect, isSimple with
  | .whole, false, true => .parameter name use (words.headD []) quoted
  | _, _, _ => .member name selection indirect use words quoted

/-- Which matches of a pattern are replaced, as a character before it says. -/
def takeMatches : Reading Matches := do
  if ← takes '/' then pure .every
  else if ← takes '#' then pure .atStart
  else if ← takes '%' then pure .atEnd
  else pure .first

/-- How a character says that letters are changed. -/
def casingOf? (c : Char) : Option Casing :=
  [('^', Casing.upper), (',', .lower), ('~', .toggled)].lookup c

/-- What stands at the start of braces after a dollar sign. -/
inductive BracedStart
  /-- Nothing that makes sense. -/
  | wrong
  /-- A name. -/
  | value (name : List Char)
  /-- A name after a sign that asks for what the parameter names. -/
  | indirect (name : List Char)
  /-- A name after a sign that asks for a length. -/
  | length (name : List Char)

/-- Take the name of a parameter, which may be special. -/
def takeParameterName : Reading (List Char) := do
  match ← peek with
  | none => pure []
  | some c =>
      if startsName c then takeName isInName longName
      else if c.isDigit then takeName Char.isDigit longName
      else if isSpecialName c then
        skip
        pure [c]
      else pure []

/-- Take what stands at the start of braces after a dollar sign. -/
def takeBracedStart : Reading BracedStart := do
  let first ← takeParameterName
  let sign? := if first == ['#'] || first == ['!'] then first.head? else none
  match sign? with
  | none => pure (if first.isEmpty then .wrong else .value first)
  | some sign => do
      let after ← get
      let second ← takeParameterName
      let ends ← sees "\x7d"
      let isNamed := second.head?.any fun c => startsName c || c.isDigit
      if second.isEmpty || !(isNamed || ends) then
        set after
        pure (.value first)
      else
        pure (if sign == '#' then .length second else .indirect second)

/-- Whether a text stands for a descriptor, or for none. -/
def isDescriptor (text : Octets) : Bool :=
  text == "-" || (!text.isEmpty && text.all Char.isDigit)

/-- A word that has been read as an assignment, as the word that it is otherwise. -/
def withoutTarget (word : Word) : Word :=
  match word with
  | .target name key appends :: value =>
      let sign := if appends then "+=" else "="
      let start : Word :=
        match key with
        | some key => .text (name ++ "[") false :: key ++ [.text ("]" ++ sign) false]
        | none => [.text (name ++ sign) false]
      mergeText (start ++ value)
  | word => word

/-- A word as an assignment, if it is one in a language. -/
def assigning? (language : Language) (word : Word) : Option Word :=
  match language with
  | .plain => (assignment? word).map fun (name, value) => .target name none false :: value
  | .extended => (destination? word).map fun _ => word

/-- Skip what makes a name the start of an assignment; whether there is something. -/
def takesAssigning : Reading Bool := do
  if ← takes '=' then pure true
  else if ← sees "+=" then
    skip
    skip
    pure true
  else pure false

/-- The tests of one operand in propositions. -/
def unaryTests : List Octets :=
  "abcdefghknoprstuvwxzGLNORS".toList.map fun c => String.ofList ['-', c]

/-- The tests of two operands in propositions that are words. -/
def binaryTests : List Octets :=
  ["=", "==", "!=", "=~", "-eq", "-ne", "-lt", "-le", "-gt", "-ge", "-nt", "-ot", "-ef"]

/-- The text of the last token, as propositions name it: without it the text of the one before. -/
def nearToken (before : Octets) : Reading Octets := do
  let reader ← get
  pure (if reader.token == .newline then before else reader.tokenText)

end Reading
end Shell
end CameraFleet
