import CameraFleet.Host.Rights
import CameraFleet.Host.Standard
import CameraFleet.Programs.DateReader
import CameraFleet.Programs.Directive
import CameraFleet.Programs.Escape
import CameraFleet.Programs.Options
import CameraFleet.Text.Regex.Reader

/-!
# Tests of files

Arguments describe tests of files, joined by operators. A test may also do
something with a file; then its answer says whether that went well.
-/

namespace CameraFleet
namespace Programs
namespace Find

open Host

/-! ## Tests -/

/-- How a number is compared. -/
inductive Comparison
  /-- It is larger. -/
  | more
  /-- It is smaller. -/
  | less
  /-- It is the same. -/
  | exactly
  deriving Repr, DecidableEq

/-- A number with which others are compared. -/
structure Amount where
  /-- How. -/
  comparison : Comparison
  /-- The number. -/
  count : Nat
  deriving Repr, DecidableEq

/-- Whether a number compares in this way. -/
def Amount.holds (amount : Amount) (n : Nat) : Bool :=
  match amount.comparison with
  | .more => amount.count < n
  | .less => n < amount.count
  | .exactly => n == amount.count

/-- How rights are compared. -/
inductive RightsTest
  /-- They are the same. -/
  | exactly
  /-- All of these are among them. -/
  | all
  /-- Any of these is among them. -/
  | any
  deriving Repr, DecidableEq

/-- A piece of a format. -/
inductive Piece
  /-- A text. -/
  | text (text : Octets)
  /-- What a letter stands for; a second letter says which part of a date is meant. -/
  | part (directive : Directive) (datePart : Char)
  /-- The end of all. -/
  | stop
  deriving Repr, DecidableEq

/-- A test of a file. -/
inductive Test
  /-- It is always the same. -/
  | constant (value : Bool)
  /-- A pattern matches its name. -/
  | name (pattern : Octets) (foldsCase : Bool)
  /-- A pattern matches its path. -/
  | path (pattern : Octets) (foldsCase : Bool)
  /-- A pattern matches what it leads to. -/
  | target (pattern : Octets) (foldsCase : Bool)
  /-- A regular expression matches its path. -/
  | regex (regex : Regex) (foldsCase : Bool)
  /-- It is one of some kinds; links may be followed or not, against what is usual. -/
  | kind (letters : List Char) (otherwise : Bool)
  /-- Its size in units. -/
  | size (amount : Amount) (unit : Nat)
  /-- There is nothing in it. -/
  | empty
  /-- It was changed after another file. -/
  | newerThan (path : Octets)
  /-- It was changed after an instant. -/
  | newerThanTime (instant : Int)
  /-- How long ago it was changed, in units of milliseconds. -/
  | age (amount : Amount) (unit : Nat) (ofDays : Bool)
  /-- Who may do what with it. -/
  | rights (test : RightsTest) (rights : Nat)
  /-- At how many places it stands. -/
  | links (amount : Amount)
  /-- Its number. -/
  | number (amount : Amount)
  /-- It can be run. -/
  | runnable
  /-- It is the same as another one. -/
  | same (path : Octets)
  /-- Print its path with something after it, perhaps to a file. -/
  | print (mark : Octets) (file : Option Octets)
  /-- Print what is known of it, perhaps to a file. -/
  | printFormat (pieces : List Piece) (file : Option Octets)
  /-- Print a line about it. -/
  | list
  /-- Run a command for it, perhaps in its directory. -/
  | run (words : List Octets) (inPlace : Bool)
  /-- Run a command for many files; the number tells such tests apart. -/
  | runMany (number : Nat) (words : List Octets) (inPlace : Bool)
  /-- Take it away. -/
  | delete
  /-- Leave out what is in it. -/
  | prune
  /-- End the search. -/
  | quit
  /-- Both tests succeed. -/
  | both (first second : Test)
  /-- One of the tests succeeds. -/
  | either (first second : Test)
  /-- The second test counts. -/
  | sequence (first second : Test)
  /-- The test fails. -/
  | not (test : Test)

/-- How a search goes. -/
structure Manner where
  /-- Whether links are followed; none if only those that are named. -/
  follows : Option Bool := some false
  /-- The deepest level. -/
  deepest : Option Nat := none
  /-- The first level that counts. -/
  highest : Nat := 0
  /-- Whether what is in a directory comes before it. -/
  depthFirst : Bool := false
  deriving Repr, DecidableEq

/-! ## Formats -/

/-- The letters of directives without a second letter. -/
def formatLetters : List Char :=
  "abcdDfFgGhHiklmMnpPsStuUyYZ%".toList

/-- The pieces of a format, and the warnings about it; the number bounds the steps. -/
def piecesOn : Nat -> List Char -> Except Octets (List Piece × List Octets)
  | 0, _ | _, [] => .ok ([], [])
  | fuel + 1, '\\' :: 'c' :: _ => do
      let _ := fuel
      pure ([.stop], [])
  | fuel + 1, '\\' :: rest => do
      let (piece, warnings, after) : Octets × List Octets × List Char :=
        match rest with
        | [] => ("\\", ["escape \x60\\' followed by nothing at all"], [])
        | c :: after =>
            match Escape.letters.lookup c with
            | some char =>
                if c == 'e' then ("\\e", ["unrecognized escape \x60\\e'"], after)
                else (String.singleton char, [], after)
            | none =>
                if '0' ≤ c && c ≤ '7' then
                  match Escape.octal 3 rest with
                  | (.text text, after) => (text, [], after)
                  | (_, after) => ("", [], after)
                else (String.ofList ['\\', c], [s!"unrecognized escape \x60\\{c}'"], after)
      let (pieces, others) ← piecesOn fuel after
      pure (.text piece :: pieces, warnings ++ others)
  | fuel + 1, '%' :: rest => do
      let read := DirectiveText.read ['-', '+', ' ', '#', '0'] rest
      match read.rest with
      | [] => throw "error: % at end of format string"
      | letter :: after => do
          let directive : Directive :=
            { flags := read.flags, width := read.width.getD 0, precision := read.precision.join
              conversion := letter }
          if ['A', 'C', 'T', 'B'].contains letter then
            match after with
            | [] =>
                pure ([.text (String.ofList ['%', letter])],
                  [s!"format directive \x60%{letter}' should be followed by another character"])
            | datePart :: after => do
                let (pieces, warnings) ← piecesOn fuel after
                pure (.part directive datePart :: pieces, warnings)
          else do
            let (pieces, warnings) ← piecesOn fuel after
            if formatLetters.contains letter then pure (.part directive ' ' :: pieces, warnings)
            else
              pure (.text (String.ofList ['%', letter]) :: pieces,
                s!"unrecognized format directive \x60%{letter}'" :: warnings)
  | fuel + 1, c :: rest => do
      let (pieces, warnings) ← piecesOn fuel rest
      pure (.text (String.singleton c) :: pieces, warnings)

/-! ## Reading -/

/-- A piece of an expression. -/
inductive Token
  /-- A test. -/
  | test (test : Test)
  /-- The start of a group. -/
  | openGroup
  /-- The end of a group. -/
  | closeGroup
  /-- The opposite of what follows. -/
  | not (name : Octets)
  /-- Both. -/
  | and (name : Octets)
  /-- One or the other. -/
  | or (name : Octets)
  /-- One after the other. -/
  | comma

/-- What is wrong with an expression. -/
inductive Complaint
  /-- A text says it. -/
  | text (text : Octets)
  /-- There is a path after the test of a name. -/
  | strayPath (path : Octets) (previous : Option Octets)
  deriving Repr, DecidableEq

/-- How far the arguments have been read. -/
structure Progress where
  /-- The arguments that are left. -/
  args : List Octets
  /-- The name of the latest test. -/
  previous : Option Octets := none
  /-- How the search goes. -/
  manner : Manner
  /-- Whether a test does something with files. -/
  acts : Bool := false
  /-- Whether files are taken away. -/
  deletes : Bool := false
  /-- Whether directories are left out. -/
  prunes : Bool := false
  /-- Whether it was said that what is in a directory comes first. -/
  saysDepth : Bool := false
  /-- The number of tests that run commands for many files. -/
  runs : Nat := 0
  /-- How regular expressions are written. -/
  regexKind : Octets := "emacs"
  /-- Warnings. -/
  warnings : List Octets := []
  /-- The paths that have to exist. -/
  needed : List Octets := []
  /-- The present. -/
  now : Moment

/-- What reads arguments. -/
abbrev Reader (α : Type) :=
  StateT Progress (Except Complaint) α

namespace Reader

/-- Refuse the arguments. -/
def refuse (text : Octets) : Reader α :=
  throw (.text text)

/-- The argument of a test. -/
def argument (name : Octets) : Reader Octets := do
  let progress ← get
  match progress.args with
  | [] => refuse s!"missing argument to \x60{name}'"
  | arg :: args => do
      set { progress with args }
      pure arg

/-- A number that is compared with others. -/
def amount? (text : Octets) : Option Amount :=
  match text.toList with
  | '+' :: digits => (natural? (String.ofList digits)).map fun count => ⟨.more, count⟩
  | '-' :: digits => (natural? (String.ofList digits)).map fun count => ⟨.less, count⟩
  | _ => (natural? text).map fun count => ⟨.exactly, count⟩

/-- A number that is compared with others, as the argument of a test. -/
def amount (name : Octets) : Reader Amount := do
  let text ← argument name
  match amount? text with
  | some amount => pure amount
  | none => refuse s!"invalid argument \x60{text}' to \x60{name}'"

/-- The number of a level. -/
def level (name : Octets) : Reader Nat := do
  let text ← argument name
  match natural? text with
  | some n => pure n
  | none =>
      let shown := Quoted.plain text
      refuse s!"Expected a positive decimal integer argument to {name}, but got {shown}"

/-- The size in units that is the argument of a test. -/
def size (name : Octets) : Reader Test := do
  let text ← argument name
  let units := [('b', 512), ('c', 1), ('w', 2), ('k', 1024), ('M', 1048576), ('G', 1073741824)]
  match text.toList.getLast? with
  | none => refuse "invalid null argument to -size"
  | some last =>
      let (digits, unit?) : Octets × Option Nat :=
        if last.isDigit then (text, some 512)
        else (String.ofList text.toList.dropLast, units.lookup last)
      match unit?, amount? digits with
      | none, _ => refuse s!"invalid -size type \x60{last}'"
      | _, none => refuse s!"Invalid argument \x60{text}' to -size"
      | some unit, some amount => pure (.size amount unit)

/-- The kinds of files that are the argument of a test. -/
def kinds (name : Octets) : Reader (List Char) := do
  let text ← argument name
  let parts := text.splitOn ","
  let letters ← parts.mapM fun part =>
    match part.toList with
    | [c] =>
        if "bcdpflsD".toList.contains c then pure c
        else refuse s!"Unknown argument to {name}: {c}"
    | [] =>
        if text.isEmpty then refuse s!"Arguments to {name} should contain at least one letter"
        else
          refuse (s!"Last file type in list argument to {name} is missing, " ++
            "i.e., list is ending on: ','")
    | c :: _ =>
        if "bcdpflsD".toList.contains c then
          refuse s!"Must separate multiple arguments to {name} using: ','"
        else refuse s!"Unknown argument to {name}: {c}"
  pure letters

/-- The rights that are the argument of a test. -/
def rights (name : Octets) : Reader Test := do
  let text ← argument name
  let (test, mode) : RightsTest × Octets :=
    match text.toList with
    | '-' :: rest => (.all, String.ofList rest)
    | '/' :: rest => (.any, String.ofList rest)
    | _ => (.exactly, text)
  match Rights.given? mode 0 false 0 with
  | some rights =>
      if mode.startsWith "+" then refuse s!"invalid mode {Quoted.plain text}"
      else pure (.rights (if test == .any && rights = 0 then .all else test) rights)
  | none => refuse s!"invalid mode {Quoted.plain text}"

/-- The names of accounts, each with its number. -/
def accountNumbers : List (Octets × Nat) :=
  (accounts.splitOn "\n").filterMap fun line =>
    match line.splitOn ":" with
    | name :: _ :: number :: _ => (natural? number).map fun n => (name, n)
    | _ => none

/-- The test for an owner or a group, which is the same for all files. -/
def owner (name what : Octets) : Reader Test := do
  let text ← argument name
  match accountNumbers.lookup text, natural? text with
  | some n, _ | none, some n => pure (.constant (n = 0))
  | none, none => refuse s!"{Quoted.plain text} is not the name of {what}"

/-- A regular expression in whose written form plus and question mark are operators. -/
def fromEmacs : List Char -> List Char
  | '\\' :: c :: rest =>
      if c == '+' || c == '?' || c == '{' || c == '}' then c :: fromEmacs rest
      else '\\' :: c :: fromEmacs rest
  | c :: rest => if c == '+' || c == '?' then '\\' :: c :: fromEmacs rest else c :: fromEmacs rest
  | [] => []

/-- The regular expression that is the argument of a test. -/
def regex (name : Octets) (foldsCase : Bool) : Reader Test := do
  let text ← argument name
  let kind := (← get).regexKind
  let read :=
    if ["posix-extended", "posix-egrep", "egrep", "posix-awk", "awk", "gnu-awk"].contains kind then
      Regex.read { extended := true, stray := .skipped, looseGroups := true } text
    else if ["emacs", "findutils-default"].contains kind then
      Regex.read {} (String.ofList (fromEmacs text.toList))
    else Regex.read {} text
  match read with
  | .ok regex => pure (.regex regex foldsCase)
  | .error mistake => refuse s!"failed to compile regular expression '{text}': {mistake.text}"

/-- The names of the ways in which regular expressions are written. -/
def regexKinds : List Octets :=
  ["findutils-default", "ed", "emacs", "gnu-awk", "grep", "posix-awk", "awk", "posix-basic",
    "posix-egrep", "egrep", "posix-extended", "posix-minimal-basic", "sed"]

/-- The words of a command up to its end, and whether it is for many files at once. -/
def commandWords : List Octets -> Option Octets -> Option (List Octets × Bool × List Octets)
  | [], _ => none
  | arg :: args, previous =>
      if arg == ";" then some ([], false, args)
      else if arg == "+" && previous == some "\x7b\x7d" then some ([], true, args)
      else
        (commandWords args (some arg)).map fun (words, many, rest) => (arg :: words, many, rest)

/-- The command that is the argument of a test. -/
def command (name : Octets) (inPlace : Bool) : Reader Test := do
  let progress ← get
  match commandWords progress.args none with
  | none => refuse s!"missing argument to \x60{name}'"
  | some ([], _, _) => refuse s!"invalid argument \x60;' to \x60{name}'"
  | some (words, many, args) => do
      let progress := { progress with args, acts := true }
      if many then
        let words := words.dropLast
        if words.any fun word => (word.splitOn "\x7b\x7d").length != 1 then
          refuse s!"only one instance of \x7b\x7d is supported with {name} ... +"
        else do
          set { progress with runs := progress.runs + 1 }
          pure (.runMany progress.runs words inPlace)
      else do
        set progress
        pure (.run words inPlace)

/-- A test that prints what is known of a file. -/
def formatted (name : Octets) (file : Option Octets) : Reader Test := do
  let text ← argument name
  match piecesOn (text.length + 1) text.toList with
  | .error reason => refuse reason
  | .ok (pieces, warnings) => do
      modify fun progress =>
        { progress with acts := true, warnings := progress.warnings ++ warnings }
      pure (.printFormat pieces file)

/-- Note that a test does something with files. -/
def acting (test : Test) : Reader Test := do
  modify fun progress => { progress with acts := true }
  pure test

/-- The test that compares with another file. -/
def needing (test : Octets -> Test) (name : Octets) : Reader Test := do
  let path ← argument name
  modify fun progress => { progress with needed := progress.needed ++ [path] }
  pure (test path)

/-- Change how the search goes; that is a test that always succeeds. -/
def setting (change : Manner -> Manner) : Reader Test := do
  modify fun progress => { progress with manner := change progress.manner }
  pure (.constant true)

/-- The test whose name says which dates are compared. -/
def newer (name : Octets) (letters : List Char) : Reader Test := do
  match letters with
  | ['m', 't'] | ['a', 't'] | ['c', 't'] => do
      let text ← argument name
      match (← get).now.read? text with
      | some instant => pure (.newerThanTime instant)
      | none =>
          refuse s!"I cannot figure out how to interpret {Quoted.plain text} as a date or time"
  | [x, y] =>
      if "acm".toList.contains x && "acm".toList.contains y then needing .newerThan name
      else refuse s!"invalid predicate \x60{name}'"
  | _ => refuse s!"invalid predicate \x60{name}'"

/-- The test of a name. -/
def test (name : Octets) : Reader Test := do
  let days : Nat := 86400000
  match name with
  | "-true" => pure (.constant true)
  | "-false" => pure (.constant false)
  | "-name" => do pure (.name (← argument name) false)
  | "-iname" => do pure (.name (← argument name) true)
  | "-path" | "-wholename" => do pure (.path (← argument name) false)
  | "-ipath" | "-iwholename" => do pure (.path (← argument name) true)
  | "-lname" => do pure (.target (← argument name) false)
  | "-ilname" => do pure (.target (← argument name) true)
  | "-regex" => regex name false
  | "-iregex" => regex name true
  | "-type" => do pure (.kind (← kinds name) false)
  | "-xtype" => do pure (.kind (← kinds name) true)
  | "-size" => size name
  | "-empty" => pure .empty
  | "-newer" | "-anewer" | "-cnewer" => needing .newerThan name
  | "-samefile" => needing .same name
  | "-mtime" | "-atime" | "-ctime" => do pure (.age (← amount name) days true)
  | "-mmin" | "-amin" | "-cmin" => do pure (.age (← amount name) 60000 false)
  | "-perm" => rights name
  | "-links" => do pure (.links (← amount name))
  | "-inum" => do pure (.number (← amount name))
  | "-user" => owner name "a known user"
  | "-group" => owner name "an existing group"
  | "-uid" | "-gid" => do pure (.constant ((← amount name).holds 0))
  | "-nouser" | "-nogroup" => pure (.constant false)
  | "-readable" | "-writable" => pure (.constant true)
  | "-executable" => pure .runnable
  | "-print" => acting (.print "\n" none)
  | "-print0" => acting (.print "\x00" none)
  | "-fprint" => do acting (.print "\n" (some (← argument name)))
  | "-fprint0" => do acting (.print "\x00" (some (← argument name)))
  | "-printf" => formatted name none
  | "-fprintf" => do
      let file ← argument name
      formatted name (some file)
  | "-ls" => acting .list
  | "-exec" => command name false
  | "-execdir" => command name true
  | "-delete" => do
      modify fun progress => { progress with deletes := true }
      let _ ← setting fun manner => { manner with depthFirst := true }
      acting .delete
  | "-prune" => do
      modify fun progress => { progress with prunes := true }
      pure .prune
  | "-quit" => acting .quit
  | "-maxdepth" => do
      let n ← level name
      setting fun manner => { manner with deepest := some n }
  | "-mindepth" => do
      let n ← level name
      setting fun manner => { manner with highest := n }
  | "-depth" | "-d" => do
      modify fun progress => { progress with saysDepth := true }
      setting fun manner => { manner with depthFirst := true }
  | "-follow" => setting fun manner => { manner with follows := some true }
  | "-xdev" | "-mount" | "-noleaf" | "-warn" | "-nowarn" | "-daystart"
  | "-ignore_readdir_race" | "-noignore_readdir_race" => pure (.constant true)
  | "-regextype" => do
      let kind ← argument name
      if regexKinds.contains kind then do
        modify fun progress => { progress with regexKind := kind }
        pure (.constant true)
      else
        let names := String.intercalate ", " (regexKinds.map fun kind => s!"'{kind}'")
        refuse (s!"Unknown regular expression type {Quoted.plain kind}; " ++
          s!"valid types are {names}.")
  | _ =>
      if name.startsWith "-newer" then newer name (name.toList.drop 6)
      else refuse s!"unknown predicate \x60{name}'"

/-- Whether an argument starts an expression. -/
def startsExpression (arg : Octets) : Bool :=
  (arg.startsWith "-" && arg != "-") || arg == "(" || arg == "!"

/-- The pieces of the expression; the number bounds them. -/
def tokens : Nat -> Reader (List Token)
  | 0 => pure []
  | fuel + 1 => do
      let progress ← get
      match progress.args with
      | [] => pure []
      | arg :: args => do
          if !startsExpression arg && arg != ")" && arg != "," then
            throw (.strayPath arg progress.previous)
          set { progress with args, previous := some arg }
          let token : Token ←
            match arg with
            | "(" => pure .openGroup
            | ")" => pure .closeGroup
            | "!" | "-not" => pure (.not arg)
            | "-a" | "-and" => pure (.and arg)
            | "-o" | "-or" => pure (.or arg)
            | "," => pure .comma
            | _ => .test <$> test arg
          let others ← tokens fuel
          pure (token :: others)

end Reader

/-! ## Expressions -/

/-- What comes of reading a part of an expression: a test, and the pieces after it. -/
abbrev Parsed := Except Octets (Test × List Token)

mutual

/-- Read tests one after another. -/
def readSequence : Nat -> Octets -> List Token -> Parsed
  | 0, _, _ => .error "invalid expression"
  | fuel + 1, previous, tokens => do
      let (first, rest) ← readEither fuel previous tokens
      readSequenceOn fuel first rest

/-- Read on after tests one after another. -/
def readSequenceOn : Nat -> Test -> List Token -> Parsed
  | fuel + 1, first, .comma :: rest => do
      let (second, rest) ← readEither fuel "," rest
      readSequenceOn fuel (.sequence first second) rest
  | _, first, rest => .ok (first, rest)

/-- Read tests one of which has to succeed. -/
def readEither : Nat -> Octets -> List Token -> Parsed
  | 0, _, _ => .error "invalid expression"
  | fuel + 1, previous, tokens => do
      let (first, rest) ← readBoth fuel previous tokens
      readEitherOn fuel first rest

/-- Read on after tests one of which has to succeed. -/
def readEitherOn : Nat -> Test -> List Token -> Parsed
  | fuel + 1, first, .or name :: rest => do
      let (second, rest) ← readBoth fuel name rest
      readEitherOn fuel (.either first second) rest
  | _, first, rest => .ok (first, rest)

/-- Read tests that all have to succeed. -/
def readBoth : Nat -> Octets -> List Token -> Parsed
  | 0, _, _ => .error "invalid expression"
  | fuel + 1, previous, tokens => do
      let (first, rest) ← readOne fuel previous tokens
      readBothOn fuel first rest

/-- Read on after tests that all have to succeed. -/
def readBothOn : Nat -> Test -> List Token -> Parsed
  | 0, first, rest => .ok (first, rest)
  | fuel + 1, first, tokens =>
      match tokens with
      | .and name :: rest => do
          let (second, rest) ← readOne fuel name rest
          readBothOn fuel (.both first second) rest
      | .test _ :: _ | .openGroup :: _ | .not _ :: _ => do
          let (second, rest) ← readOne fuel "" tokens
          readBothOn fuel (.both first second) rest
      | _ => .ok (first, tokens)

/-- Read a test, a group, or the opposite of one; the name is that of an operator before it. -/
def readOne : Nat -> Octets -> List Token -> Parsed
  | 0, _, _ => .error "invalid expression"
  | fuel + 1, previous, tokens =>
      let unexpected (name : Octets) : Parsed :=
        .error (s!"invalid expression; you have used a binary operator '{name}' " ++
          "with nothing before it.")
      match tokens with
      | .test test :: rest => .ok (test, rest)
      | .not name :: rest => do
          let (test, rest) ← readOne fuel name rest
          pure (.not test, rest)
      | .openGroup :: .closeGroup :: _ =>
          .error "invalid expression; empty parentheses are not allowed."
      | [.openGroup] =>
          .error ("invalid expression; expected to find a ')' but didn't see one. " ++
            "Perhaps you need an extra predicate after '('")
      | .openGroup :: rest => do
          let (test, rest) ← readSequence fuel "(" rest
          match rest with
          | .closeGroup :: rest => pure (test, rest)
          | _ =>
              .error ("invalid expression; I was expecting to find a ')' somewhere but did not " ++
                "see one.")
      | .and name :: _ | .or name :: _ => unexpected name
      | .comma :: _ => unexpected ","
      | .closeGroup :: _ =>
          if previous.isEmpty || previous == "(" then
            .error "invalid expression: you have too many ')'"
          else .error s!"expected an expression between '{previous}' and ')'"
      | [] => .error s!"expected an expression after '{previous}'"

end

/-- The test that an expression describes. -/
def testOf (tokens : List Token) : Except Octets Test := do
  match tokens with
  | [] => pure (.constant true)
  | _ => do
      let (test, rest) ← readSequence (8 * tokens.length + 8) "" tokens
      if rest.isEmpty then pure test
      else throw "you have too many ')'"

end Find
end Programs
end CameraFleet
