import CameraFleet.Number.Numeral
import CameraFleet.Programs.Copy
import CameraFleet.Programs.Search

/-!
# Commands with many arguments

The items of an input become arguments of a command, which is run as often as is
needed for all of them. An item is a word, in which quotes and backslashes are
understood; or it ends with a character of its own.
-/

namespace CameraFleet
namespace Programs

open Host

namespace Batch

/-- An item, and whether a line ends with it. -/
structure Item where
  /-- The text. -/
  text : Octets
  /-- Whether a line ends with it. -/
  endsLine : Bool := false
  deriving Repr, DecidableEq

/-- Where reading is. -/
inductive Place
  /-- Before a word. -/
  | before
  /-- In a word. -/
  | inside
  /-- Between quotes. -/
  | quoted (mark : Char)
  /-- After a backslash. -/
  | escaped
  deriving Repr, DecidableEq

/-- Whether a character is blank. -/
def isBlank (c : Char) : Bool :=
  c == ' ' || c == '\t'

/-- A text up to a zero byte, which no argument can hold. -/
def cut (chars : List Char) : Octets :=
  String.ofList (chars.takeWhile (· != '\x00'))

/--
The words of some characters after those of a word, which are in reverse; and the
mark of a quote that has no end. With whole lines, only lines separate words.
-/
def words (wholeLines : Bool) :
    List Char -> Place -> Char -> List Char -> List Item × Option Char
  | [], place, _, taken =>
      match place with
      | .quoted mark => ([], some mark)
      | _ => (if taken.isEmpty then [] else [⟨cut taken.reverse, true⟩], none)
  | c :: rest, place, last, taken =>
      let add (item : Item) (others : List Item × Option Char) : List Item × Option Char :=
        (item :: others.1, others.2)
      match place with
      | .escaped => words wholeLines rest .inside c (c :: taken)
      | .quoted mark =>
          if c == '\n' then ([], some mark)
          else if c == mark then words wholeLines rest .inside c taken
          else words wholeLines rest place c (c :: taken)
      | _ =>
          if place == .before && (isBlank c || c == '\n') then
            words wholeLines rest .before c taken
          else if c == '\n' then
            if taken.isEmpty then words wholeLines rest .before c []
            else
              add ⟨cut taken.reverse, !isBlank last⟩ (words wholeLines rest .before c [])
          else if !wholeLines && isBlank c then
            let isLast := (rest.dropWhile isBlank).isEmpty
            add ⟨cut taken.reverse, isLast⟩ (words wholeLines rest .before c [])
          else if c == '\'' || c == '"' then words wholeLines rest (.quoted c) c taken
          else if c == '\\' then words wholeLines rest .escaped c taken
          else words wholeLines rest .inside c (c :: taken)

/-- The items of some characters that end with a character. -/
def itemsEndedBy (mark : Char) (text : Octets) : List Item :=
  let parts := text.splitOn (String.singleton mark)
  let parts := if parts.getLast? == some "" then parts.dropLast else parts
  parts.map fun part => ⟨cut part.toList, true⟩

/-- How commands are made of items. -/
structure Plan where
  /-- The command and its first arguments. -/
  command : List Octets
  /-- The text in the arguments that an item replaces, if there is one. -/
  marker : Option Octets := none
  /-- The most items of a command. -/
  mostItems : Option Nat := none
  /-- The most lines of a command. -/
  mostLines : Option Nat := none
  /-- The most bytes of a command. -/
  mostBytes : Nat := 131072
  /-- Whether a command with less than it should have is a mistake. -/
  strict : Bool := false
  /-- Whether commands are shown. -/
  shows : Bool := false
  /-- Whether there is no command without items. -/
  skipsEmpty : Bool := false
  /-- Whether commands read what the program itself would read. -/
  sharesInput : Bool := false

/-- The bytes of some words, each with an end. -/
def size (words : List Octets) : Nat :=
  words.foldl (fun total word => total + word.length + 1) 0

/-- Take the items of the next command; the first number is that of their lines. -/
def Plan.take
    (plan : Plan) :
    Nat -> List Octets -> List Item -> Except Octets (List Octets × List Item)
  | _, taken, [] => .ok (taken.reverse, [])
  | lines, taken, item :: rest =>
      let isFull := plan.mostItems.any (· ≤ taken.length) || plan.mostLines.any (· ≤ lines)
      if isFull then .ok (taken.reverse, item :: rest)
      else if plan.mostBytes < size plan.command + size taken + item.text.length + 1 then
        if taken.isEmpty then .error "argument line too long"
        else if plan.strict then .error "argument list too long"
        else .ok (taken.reverse, item :: rest)
      else plan.take (if item.endsLine then lines + 1 else lines) (item.text :: taken) rest

/-- The next command, and the items after it. -/
def Plan.next
    (plan : Plan)
    (items : List Item) : Except Octets (List Octets × List Item) :=
  match plan.marker, items with
  | some marker, item :: rest =>
      let name := plan.command.take 1
      let args := (plan.command.drop 1).map fun arg =>
        if marker.isEmpty then arg else arg.replace marker item.text
      .ok (name ++ args, rest)
  | _, _ => do
      let (taken, rest) ← plan.take 0 [] items
      pure (plan.command ++ taken, rest)

/-- Whether there are enough items for a command, though more may come. -/
def Plan.fills (plan : Plan) (items : List Item) : Bool :=
  plan.marker.isSome || plan.mostItems.any (· ≤ items.length) ||
    plan.mostLines.any (· ≤ items.countP (·.endsLine))

/-- Run a command; the result is a status, and whether that is the end. -/
def Plan.run
    (plan : Plan)
    (starter : Starter)
    (launch : Launch)
    (command : List Octets) : Act (Nat × Bool) := do
  let name := command.headD ""
  if plan.shows then
    Act.complain (String.intercalate " " (command.map Quoted.wordIfNeeded) ++ "\n")
  let child := { launch with name, args := command.drop 1 }
  let ending ← runChild starter child plan.sharesInput fun fault =>
    s!"{launch.name}: {name}: {fault.text}\n"
  match ending with
  | .exited 0 => pure (0, false)
  | .exited 255 => do
      warn launch.name s!"{name}: exited with status 255; aborting"
      pure (124, true)
  | .exited status =>
      if status = 126 || status = 127 then pure (status, true) else pure (123, false)
  | .killed signal => do
      warn launch.name s!"{name}: terminated by signal {signal.number}"
      pure (125, true)
  | .unstarted _ => pure (126, true)

/-- The complaint about a quote that has no end. -/
def unmatched (mark : Char) : Octets :=
  let kind := if mark == '"' then "double" else "single"
  s!"unmatched {kind} quote; by default quotes are special to xargs unless you use the -0 option"

/-- Run the commands for some items, after which there may be a quote without an end. -/
def Plan.runAll
    (plan : Plan)
    (starter : Starter)
    (launch : Launch)
    (ending : Option Char) : Nat -> List Item -> Bool -> Nat -> Act Nat
  | 0, _, _, status => pure status
  | turns + 1, items, hasRun, status => do
      match ending with
      | some mark =>
          if items.isEmpty || (plan.strict && !plan.fills items) then
            return ← fail launch.name (unmatched mark) 1
      | none => pure ()
      if items.isEmpty && (hasRun || plan.skipsEmpty || plan.marker.isSome) then pure status
      else
        match plan.next items with
        | .error reason => fail launch.name reason 1
        | .ok (command, rest) => do
            let (found, isOver) ← plan.run starter launch command
            let status := if found = 0 then status else found
            if isOver then pure status
            else plan.runAll starter launch ending turns rest true status

/-! ## Options -/

/-- The character that a text describes, if it does. -/
def delimiter? (text : Octets) : Option Char :=
  let letters :=
    [('a', '\x07'), ('b', '\x08'), ('f', '\x0c'), ('n', '\n'), ('r', '\r'), ('t', '\t'),
      ('v', '\x0b'), ('\\', '\\')]
  match text.toList with
  | [c] => some c
  | ['\\', c] =>
      match letters.lookup c with
      | some c => some c
      | none => (Numeral.digit? c).bind fun n => if n < 8 then some (Char.ofNat n) else none
  | '\\' :: 'x' :: digits =>
      match Numeral.digits 16 digits with
      | (found, []) =>
          let n := Numeral.valueOf 16 found
          if n < 256 then some (Char.ofNat n) else none
      | _ => none
  | '\\' :: digits =>
      match Numeral.digits 8 digits with
      | (found, []) =>
          let n := Numeral.valueOf 8 found
          if n < 256 then some (Char.ofNat n) else none
      | _ => none
  | _ => none

/-- What options ask for. -/
structure Wish where
  /-- How commands are made. -/
  plan : Plan
  /-- The character that ends items, if there is one. -/
  mark : Option Char := none
  /-- The word at which the input ends. -/
  last : Option Octets := none
  /-- The file that is read. -/
  source : Option Octets := none
  /-- What options are not heeded, and why. -/
  warnings : List Octets := []

/-- The number that an option gives, or what is wrong with it. -/
def numberFor
    (letter : Char)
    (least : Nat)
    (text : Octets) : Except Octets Nat :=
  match integer? text with
  | none => .error s!"invalid number \"{text}\" for -{letter} option"
  | some n =>
      if n < least then .error s!"value {text} for -{letter} option should be >= {least}"
      else .ok n.toNat

/-- The warning about an option that another one takes the place of. -/
def replaced (name other : Octets) : Octets :=
  s!"warning: options {other} and {name} are mutually exclusive, ignoring previous {other} value"

/-- What is asked for after a further option, or what is wrong with it. -/
def Wish.add (wish : Wish) (option : Given) : Except Octets Wish := do
  let text := option.argument.getD ""
  let replacing := "--replace/-I/-i"
  match option.letter with
  | '0' => pure { wish with mark := some '\x00' }
  | 'a' => pure { wish with source := some text }
  | 'd' =>
      match delimiter? text with
      | some c => pure { wish with mark := some c }
      | none =>
          throw (s!"Invalid input delimiter specification {text}: the delimiter must be either " ++
            "a single character or an escape sequence starting with \\.")
  | 'E' | 'e' => pure { wish with last := option.argument.filter fun text => !text.isEmpty }
  | 'I' | 'i' =>
      let warnings :=
        (if wish.plan.mostLines.isSome then [replaced replacing "--max-lines"] else []) ++
          (if wish.plan.mostItems.isSome then [replaced replacing "--max-args"] else [])
      let marker := option.argument.getD "\x7b\x7d"
      pure
        { wish with
          plan := { wish.plan with marker := some marker, mostItems := none, mostLines := none }
          warnings := wish.warnings ++ warnings }
  | 'L' | 'l' => do
      let count ← if option.argument.isNone then pure 1 else numberFor option.letter 1 text
      let warnings :=
        (if wish.plan.marker.isSome then [replaced "--max-lines" replacing] else []) ++
          (if wish.plan.mostItems.isSome then [replaced "--max-lines" "--max-args"] else [])
      pure
        { wish with
          plan := { wish.plan with mostLines := some count, marker := none, mostItems := none }
          warnings := wish.warnings ++ warnings }
  | 'n' => do
      let count ← numberFor 'n' 1 text
      if count = 1 && wish.plan.marker.isSome then pure wish
      else
        let warnings :=
          (if wish.plan.mostLines.isSome then [replaced "--max-args/-n" "--max-lines"] else []) ++
            (if wish.plan.marker.isSome then [replaced "--max-args" replacing] else [])
        pure
          { wish with
            plan := { wish.plan with mostItems := some count, marker := none, mostLines := none }
            warnings := wish.warnings ++ warnings }
  | 'P' => do
      let _ ← numberFor 'P' 0 text
      pure wish
  | 'r' => pure { wish with plan := { wish.plan with skipsEmpty := true } }
  | 's' => do
      let most ← numberFor 's' 1 text
      pure { wish with plan := { wish.plan with mostBytes := min most 131072 } }
  | 't' => pure { wish with plan := { wish.plan with shows := true } }
  | 'x' => pure { wish with plan := { wish.plan with strict := true } }
  | _ => pure wish

/-- The options. -/
def options : OptionTable where
  letters :=
    [('0', .nothing), ('a', .something), ('d', .something), ('E', .something), ('e', .perhaps),
      ('I', .something), ('i', .perhaps), ('L', .something), ('l', .perhaps), ('n', .something),
      ('o', .nothing), ('P', .something), ('r', .nothing), ('s', .something), ('t', .nothing),
      ('x', .nothing)]
  words :=
    [("null", '0', .nothing), ("arg-file", 'a', .something), ("delimiter", 'd', .something),
      ("eof", 'e', .perhaps), ("replace", 'i', .perhaps), ("max-lines", 'l', .perhaps),
      ("max-args", 'n', .something), ("max-procs", 'P', .something), ("open-tty", 'o', .nothing),
      ("no-run-if-empty", 'r', .nothing), ("max-chars", 's', .something),
      ("verbose", 't', .nothing), ("exit", 'x', .nothing)]
  permutes := false

/-- The text of an input, or why it cannot be read. -/
def textOf (source : Option Octets) : Act (Except Fault Octets) := do
  let found ← do
    match source with
    | none => readAll 0
    | some path =>
        match ← openInput path with
        | .error fault => pure (.error fault)
        | .ok descriptor => do
            let found ← readAll descriptor
            closeInput descriptor
            pure found
  pure (found.map Octets.ofBytes)

end Batch

/-- Run a command with the items of the input as arguments. -/
def xargs (starter : Starter) : Program :=
  withOptions Batch.options 1 fun launch given operands => do
    let command := if operands.isEmpty then ["echo"] else operands
    match given.foldlM Batch.Wish.add { plan := { command } } with
    | .error reason =>
        if reason.startsWith "Invalid input" then fail launch.name reason 1
        else misuse launch.name reason 1
    | .ok wish => do
        for warning in wish.warnings do
          warn launch.name warning
        match ← Batch.textOf wish.source with
        | .error fault =>
            match wish.source with
            | some path =>
                fail launch.name s!"Cannot open input file {Quoted.plain path}: {fault.text}" 1
            | none => pure 1
        | .ok text => do
            let (items, ending) :=
              match wish.mark with
              | some mark => (Batch.itemsEndedBy mark text, none)
              | none => Batch.words wish.plan.marker.isSome text.toList .before '\n' []
            let isLast (item : Batch.Item) : Bool := wish.last == some item.text
            let ending := if items.any isLast then none else ending
            let items := items.takeWhile fun item => !isLast item
            if wish.mark.isNone && text.contains '\x00' then
              warn launch.name
                ("WARNING: a NUL character occurred in the input.  It cannot be passed through " ++
                  "in the argument list.  Did you mean to use the --null option?")
            let plan := { wish.plan with sharesInput := wish.source.isSome }
            plan.runAll starter launch ending (items.length + 2) items false 0

end Programs
end CameraFleet
