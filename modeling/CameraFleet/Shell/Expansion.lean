import CameraFleet.Host.Standard
import CameraFleet.Shell.Arithmetic
import CameraFleet.Shell.Extended.Braces
import CameraFleet.Shell.Extended.Variables
import CameraFleet.Shell.Pattern
import CameraFleet.Shell.State

/-!
# Expansion

When a command runs, the parts of its words are replaced by what they stand for.
This gives atoms: characters that know whether they were quoted and whether they
may separate fields, and marks for what was quoted but is empty. Atoms are then
split into fields, and a field that is a pattern is replaced by the names of the
files that it matches.
-/

namespace CameraFleet
namespace Shell

open Host
open Programs (natural?)

/-- A piece of an expanded word. -/
inductive Atom
  /-- A character. -/
  | char (c : Char) (quoted splits : Bool)
  /-- Nothing, in quotes; there is a field here. -/
  | mark
  /-- The end of an argument of the shell; in quotes, it always ends a field. -/
  | gap (quoted : Bool)
  /-- What follows is the value of something; it may be the quoted arguments of the shell. -/
  | edge (arguments : Bool)
  deriving Repr, DecidableEq

/-- Where a word may start with the name of a home. -/
inductive HomePlace
  /-- Nowhere. -/
  | nowhere
  /-- At its start. -/
  | start
  /-- At its start, and after every colon. -/
  | starts
  deriving Repr, DecidableEq

/-- How a word is expanded. -/
structure Mode where
  /-- Whether it may become several fields. -/
  splits : Bool := false
  /-- Where there may be homes. -/
  homes : HomePlace := .start
  /-- Whether it stands within the braces of a parameter. -/
  within : Bool := false
  deriving Repr, DecidableEq

namespace Atom

/-- The characters of a text. -/
def ofText
    (text : Octets)
    (quoted splits : Bool) : List Atom :=
  text.toList.map fun c => .char c quoted splits

/-- The cell of an atom that is a character. -/
def cell? : Atom -> Option Cell
  | .char c quoted _ => some { char := c, quoted }
  | _ => none

/-- The cells of some atoms. -/
def cells (atoms : List Atom) : List Cell :=
  atoms.filterMap cell?

/-- The text of some atoms. -/
def text (atoms : List Atom) : Octets :=
  cellText (cells atoms)

/-- The number of characters and gaps. -/
def extent (atoms : List Atom) : Nat :=
  atoms.countP fun atom =>
    match atom with
    | .char .. | .gap _ => true
    | _ => false

end Atom

/-! ## Fields -/

/-- What comes before a place between fields. -/
inductive Before
  /-- Something of the same field, or nothing. -/
  | field
  /-- A separator that is blank. -/
  | blank
  /-- A separator that is not blank. -/
  | other
  deriving Repr, DecidableEq

/-- The state of splitting. -/
structure Splitting where
  /-- The fields that are complete, last one first. -/
  complete : List (List Cell) := []
  /-- The cells of the next field, last one first. -/
  current : List Cell := []
  /-- Whether the next field has begun. -/
  started : Bool := false
  /-- What came before. -/
  before : Before := .field
  /-- Whether the last value was that of the quoted arguments. -/
  arguments : Bool := false

namespace Splitting

/-- A field ends. -/
def close (splitting : Splitting) (before : Before) : Splitting :=
  { splitting with
    complete := splitting.current.reverse :: splitting.complete, current := []
    started := false, before }

/-- A separator is met. -/
def separate (splitting : Splitting) (isBlank : Bool) : Splitting :=
  match splitting.before, isBlank with
  | .blank, true | .other, true => splitting
  | .blank, false => { splitting with before := .other }
  | .other, false => splitting.close .other
  | .field, true => if splitting.started then splitting.close .blank else splitting
  | .field, false => splitting.close .other

/-- An atom is met. -/
def step
    (separators : List Char)
    (splitting : Splitting) : Atom -> Splitting
  | .mark => { splitting with started := true, before := .field }
  | .edge arguments => { splitting with before := .field, arguments }
  | .gap true => splitting.close .field
  | .gap false => splitting.separate true
  | .char c quoted splits =>
      if splits && separators.contains c then
        splitting.separate ([' ', '\t', '\n'].contains c)
      else
        { splitting with
          current := { char := c, quoted } :: splitting.current, started := true
          before := .field }

/-- The fields, in order. -/
def fields (splitting : Splitting) : List (List Cell) :=
  let closed :=
    if splitting.started || splitting.arguments then splitting.close .field else splitting
  closed.complete.reverse

end Splitting

/-- The fields that some atoms make up. -/
def fieldsOf
    (separators : List Char)
    (atoms : List Atom) : List (List Cell) :=
  (atoms.foldl (Splitting.step separators) {}).fields

/-! ## Files that match a field -/

/-- The parts of a path between its slashes. -/
def pathParts : List Cell -> List (List Cell)
  | [] => [[]]
  | cell :: rest =>
      match pathParts rest with
      | [] => [[cell]]
      | first :: others =>
          if cell.char == '/' then [] :: first :: others else (cell :: first) :: others

/-- The text of a pattern that matches one text only. -/
def Pattern.text (pattern : List Pattern.Piece) : Octets :=
  String.ofList (pattern.filterMap fun piece =>
    match piece with
    | .one c => some c
    | _ => none)

/-- The pattern of some cells; there are groups in it if the shell knows them. -/
def State.pattern
    (state : State)
    (cells : List Cell) : List Pattern.Piece :=
  Pattern.ofGroupedCells (state.settings.contains "extglob") cells

/-- Whether a name is matched; a dot at its start must be given. -/
def matchesName
    (dots : Bool)
    (pattern : List Pattern.Piece)
    (name : Octets) : Bool :=
  let hidden := name.startsWith "." && !dots
  let given :=
    match pattern with
    | .one '.' :: _ => true
    | _ => false
  (!hidden || given) && Pattern.isMatch pattern name.toList

/-- The paths that begin with a text and go on as some parts of a path say. -/
def pathsFrom (start : Octets) : List (List Cell) -> Sh (List Octets)
  | [] => pure []
  | part :: rest => do
      let state ← get
      let pattern := state.pattern part
      if Pattern.isOpen pattern then
        match ← Sh.call (.names (if start.isEmpty then "." else start)) with
        | .error _ => pure []
        | .ok names =>
            let all := if state.language == .plain then "." :: ".." :: names else names
            let found := all.filter (matchesName (state.settings.contains "dotglob") pattern)
            if rest.isEmpty then pure (found.map (start ++ ·))
            else
              let paths ← found.mapM fun name => pathsFrom (start ++ name ++ "/") rest
              pure paths.flatten
      else
        let path := start ++ Pattern.text pattern
        if rest.isEmpty then
          match ← Sh.call (.look path false) with
          | .ok _ => pure [path]
          | .error _ => pure []
        else pathsFrom (path ++ "/") rest

/-- The paths of the files that a field matches, in order; its text if there are none. -/
def filesOf (cells : List Cell) : Sh (List Octets) := do
  let state ← get
  let parts := pathParts cells
  if state.has 'f' || !parts.any fun part => Pattern.isOpen (state.pattern part) then
    pure [cellText cells]
  else
    let paths ← pathsFrom "" parts
    if paths.isEmpty then
      if state.settings.contains "failglob" then Sh.discard s!"no match: {cellText cells}"
      else pure (if state.settings.contains "nullglob" then [] else [cellText cells])
    else pure (paths.mergeSort fun a b => decide (a ≤ b))

/-! ## Homes -/

/-- The home of an account. -/
def homeOf? (account : Octets) : Option Octets :=
  (accounts.splitOn "\n").findSome? fun line =>
    match line.splitOn ":" with
    | [name, _, _, _, _, home, _] => if name == account then some home else none
    | _ => none

/-- The home that a name after a tilde stands for. -/
def home? (state : State) (name : Octets) : Option Octets :=
  let isExtended := state.language == .extended
  if name.isEmpty then
    if isExtended then (state.value? "HOME").or (homeOf? "root") else state.value? "HOME"
  else if isExtended && name == "+" then state.value? "PWD"
  else if isExtended && name == "-" then state.value? "OLDPWD"
  else homeOf? name

/-- The atoms of a text outside of quotes, without regard to homes. -/
def bareAtoms (mode : Mode) (text : List Char) : List Atom :=
  text.map fun c => .char c false mode.within

/-- The atoms of a text that may start with a home; the text may be all that is left of a word. -/
def homeAtoms
    (state : State)
    (mode : Mode)
    (isLast : Bool)
    (text : List Char) : List Atom :=
  match text with
  | '~' :: after =>
      let name := after.takeWhile (· != '/')
      let rest := after.dropWhile (· != '/')
      match home? state (String.ofList name) with
      | some home =>
          if rest.isEmpty && !isLast then bareAtoms mode text
          else Atom.ofText home true false ++ bareAtoms mode rest
      | none => bareAtoms mode text
  | _ => bareAtoms mode text

/-- The parts of a text between its colons. -/
def colonParts (text : Octets) : List (List Char) :=
  (text.splitOn ":").map String.toList

/-- The atoms of a text outside of quotes, which may start a word and may end it. -/
def textAtoms
    (state : State)
    (mode : Mode)
    (isFirst isLast : Bool)
    (text : Octets) : List Atom :=
  match mode.homes with
  | .nowhere => bareAtoms mode text.toList
  | .start =>
      if isFirst then homeAtoms state mode isLast text.toList else bareAtoms mode text.toList
  | .starts =>
      let parts := colonParts text
      let atoms := parts.zipIdx.map fun (part, place) =>
        let before : List Atom := if place = 0 then [] else [.char ':' false mode.within]
        let mayBeHome := isFirst || 0 < place
        let ends := isLast || place + 1 < parts.length
        before ++ (if mayBeHome then homeAtoms state mode ends part else bareAtoms mode part)
      atoms.flatten

/-! ## Parameters -/

/-- The values of a list as atoms; they may be one text. -/
def listAtoms
    (state : State)
    (mode : Mode)
    (joined quoted : Bool)
    (values : List Octets) : List Atom :=
  let separator : List Atom :=
    if !joined && quoted && mode.splits then [.gap true]
    else if !joined && !mode.splits && state.language == .extended then [.char ' ' true false]
    else
      match state.value? "IFS" with
      | none => [.char ' ' quoted (!quoted)]
      | some separators =>
          if mode.splits && !quoted then [.gap false]
          else
            match separators.toList with
            | [] => []
            | first :: _ => [.char first quoted (!quoted)]
  let atoms := values.map fun value => Atom.ofText value quoted (!quoted)
  (atoms.intersperse separator).flatten

/-- The order in which options are shown. -/
def optionOrder : Language -> List Char
  | .plain => ['p', 'u', 'b', 'a', 'C', 'E', 'V', 'v', 'x', 's', 'n', 'm', 'i', 'I', 'f', 'e']
  | .extended => "abefhikmnprtuvxBCEHPTcs".toList

/-- The value of a parameter, if it is set. -/
def parameter?
    (state : State)
    (mode : Mode)
    (name : Octets)
    (quoted : Bool) : Option (List Atom) :=
  let text (value : Octets) : Option (List Atom) := some (Atom.ofText value quoted (!quoted))
  match name with
  | "$" => text (toString state.process)
  | "?" => text (toString state.status)
  | "#" => text (toString state.args.length)
  | "!" => state.lastAside.bind fun number => text (toString number)
  | "-" => text (String.ofList ((optionOrder state.language).filter state.has))
  | "@" | "*" => some (listAtoms state mode (name == "*") quoted state.args)
  | _ =>
      match natural? name with
      | some 0 => text state.name
      | some (place + 1) => state.args[place]?.bind text
      | none =>
          match state.language with
          | .plain => (state.value? name).bind text
          | .extended => (state.wholeValue? name).bind text

/-- What stands before the value of something. -/
def edgeOf
    (state : State)
    (mode : Mode)
    (name : Octets)
    (quoted : Bool) : List Atom :=
  if !quoted then [.edge false]
  else if name == "@" && mode.splits && !state.args.isEmpty then [.edge true]
  else []

/-- Whether a part is quoted that stands for something else. -/
def isQuotedValue (part : Part) : Bool :=
  match part with
  | .parameter _ _ _ quoted | .output _ quoted | .value _ quoted | .member _ _ _ _ _ quoted
  | .names _ _ quoted | .keys _ _ quoted => quoted
  | .text .. | .target .. | .list _ => false

/-- Whether a part is quoted and stands for any number of fields. -/
def isQuotedList (part : Part) : Bool :=
  match part with
  | .parameter "@" .plain [] true => true
  | .member "@" .whole false use _ true => use != .length
  | .member _ (.every false) false use _ true => use != .length
  | .names _ false true | .keys _ false true => true
  | _ => false

/-- Whether there is nothing but a quoted list between two quotes. -/
def isBareList : Word -> Bool
  | .text "" true :: part :: rest =>
      isQuotedList part && !(rest.head?.any isQuotedValue)
  | _ => false

/-- End the shell, after a complaint. -/
def expire (text : Octets) : Sh α := do
  Sh.warnBare text
  Sh.flush
  modify fun state =>
    { state with status := if state.fromArgument && state.level = 0 then 127 else 1 }
  Sh.jump .finish

/-- A parameter that should be set is not. -/
def failUnset
    (name message : Octets) : Sh α := do
  match (← get).language with
  | .plain => Sh.fail s!"{name}: {message}"
  | .extended => expire s!"{name}: {message}"

/-- A parameter is asked for that is not set. -/
def failUnbound (name : Octets) : Sh α := do
  match (← get).language with
  | .plain => Sh.fail s!"{name}: parameter not set"
  | .extended => expire s!"{name}: unbound variable"

/-- What is said of a parameter that is not set, or may not be empty. -/
def missingText
    (language : Language)
    (orEmpty : Bool) : Octets :=
  match language, orEmpty with
  | _, false => "parameter not set"
  | .plain, true => "parameter not set or null"
  | .extended, true => "parameter null or not set"

/-! ## Members -/

/-- What an expansion is about. -/
structure Subject where
  /-- What complaints name. -/
  label : Octets
  /-- The parameter. -/
  name : Octets
  /-- The key of its member. -/
  key : Option Octets := none
  /-- The values, with their keys. -/
  entries : List (Octets × Octets) := []
  /-- Whether it stands for any number of values. -/
  isList : Bool := false
  /-- Whether these are one text. -/
  joined : Bool := false

namespace Subject

/-- The values. -/
def values (subject : Subject) : List Octets :=
  subject.entries.map (·.2)

/-- Whether there is no value, or none that is not empty. -/
def isMissing
    (subject : Subject)
    (orEmpty : Bool) : Bool :=
  subject.entries.isEmpty || (orEmpty && subject.values.all (·.isEmpty))

/-- The atoms of values in the place of the subject. -/
def atoms
    (subject : Subject)
    (state : State)
    (mode : Mode)
    (quoted : Bool)
    (values : List Octets) : List Atom :=
  if subject.isList then
    let edge : List Atom :=
      if !quoted then [.edge false]
      else if !subject.joined && mode.splits && !values.isEmpty then [.edge true]
      else []
    edge ++ listAtoms state mode subject.joined quoted values
  else
    let text := Atom.ofText (values.headD "") quoted (!quoted)
    if quoted then text else .edge false :: text

end Subject

/-- A text as one value without a key. -/
def entryOf (value : Option Octets) : List (Octets × Octets) :=
  (value.map fun value => ("0", value)).toList

/-- The parameter of a name as such, which may be special. -/
def wholeSubject
    (state : State)
    (name : Octets) : Subject :=
  if name == "@" || name == "*" then
    let entries := state.args.zipIdx.map fun (arg, place) => (toString (place + 1), arg)
    { label := name, name, isList := true, joined := name == "*", entries }
  else
    let value := (parameter? state {} name true).map Atom.text
    { label := name, name, entries := entryOf value }

/-- All members of a parameter. -/
def everySubject
    (state : State)
    (name : Octets)
    (joined : Bool) : Subject :=
  { label := name ++ (if joined then "[*]" else "[@]"), name, isList := true, joined
    entries := state.entriesOf name }

/-- The member of a parameter that a text in brackets means. -/
def keySubject (name text : Octets) : Sh Subject := do
  let key ← Sh.keyFor name text
  pure
    { label := s!"{name}[{text}]", name, key := some key
      entries := entryOf ((← get).memberValue? name key) }

/-- The parameter, or the member of one, that a text names. -/
def namedSubject (text : Octets) : Sh Subject := do
  let chars := text.toList
  let name := String.ofList (chars.takeWhile isInName)
  let isPlace := isName name || (!name.isEmpty && name.all Char.isDigit)
  match chars.dropWhile isInName with
  | [] =>
      if isPlace then do pure (wholeSubject (← get) name)
      else Sh.discard s!"{text}: invalid variable name"
  | '[' :: rest =>
      let key := String.ofList rest.dropLast
      if !isName name || rest.getLast? != some ']' then
        Sh.discard s!"{text}: invalid variable name"
      else if key == "@" || key == "*" then do pure (everySubject (← get) name (key == "*"))
      else keySubject name key
  | [c] =>
      if isSpecialName c && name.isEmpty then do pure (wholeSubject (← get) text)
      else Sh.discard s!"{text}: invalid variable name"
  | _ => Sh.discard s!"{text}: invalid variable name"

/-- What a transformation that a letter asks for makes of a value. -/
def transformed
    (letter : Char)
    (value : Octets) : Octets :=
  match letter with
  | 'U' => Substitution.recase .upper true none value
  | 'u' => Substitution.recase .upper false none value
  | 'L' => Substitution.recase .lower true none value
  | 'E' => (Programs.Escape.replaceAll .quotes value).1
  | 'P' => value
  | _ => Quoting.always value

/-- The values in the place of a subject after a transformation. -/
def transformedValues
    (state : State)
    (letter : Char)
    (subject : Subject) : List Octets :=
  let binding := state.binding (state.meant subject.name)
  let pair (entry : Octets × Octets) : Octets :=
    s!"{Quoting.key entry.1} {Quoting.double entry.2}"
  match letter, subject.isList && isName subject.name with
  | 'a', _ => subject.entries.map fun _ => flagLetters binding
  | 'A', true => [declarationText subject.name binding]
  | 'A', false =>
      let flags := flagLetters binding
      let start := if flags.isEmpty then "" else s!"declare -{flags} "
      subject.values.map fun value => s!"{start}{subject.label}={Quoting.always value}"
  | 'K', true => [String.intercalate " " (subject.entries.map pair)]
  | 'k', true => subject.entries.flatMap fun (key, value) => [key, value]
  | letter, _ => subject.values.map (transformed letter)

/-- A part of the values of a subject, from a place on. -/
def slice
    (state : State)
    (subject : Subject)
    (start : Int)
    (length : Option Int) : Except Int (List Octets) :=
  if !subject.isList then
    let chars := (subject.values.headD "").toList
    (Substitution.bounds? chars.length start length).map fun bounds =>
      if subject.entries.isEmpty then []
      else [String.ofList (Substitution.part bounds chars)]
  else if (length.getD 0) < 0 then .error (length.getD 0)
  else if isName subject.name && !(state.membersOf subject.name).isKeyed then
    let place (key : Octets) : Nat := key.toNat?.getD 0
    let count := ((subject.entries.getLast?.map fun entry => place entry.1 + 1)).getD 0
    let first := if start < 0 then start + count else start
    let found := subject.entries.filter fun entry => decide (first ≤ (place entry.1 : Int))
    let found := if first < 0 then [] else found.map (·.2)
    .ok (match length with
      | some length => found.take length.toNat
      | none => found)
  else
    let values := if isName subject.name then subject.values else state.name :: subject.values
    (Substitution.bounds? values.length start length).map fun bounds =>
      Substitution.part bounds values

/-- Whether a parameter may be asked for though it is not set. -/
def mayBeUnset (state : State) (name : Octets) : Bool :=
  !state.has 'u' || name == "@" || name == "*"

/-- The value of an expression, whose changes of parameters are carried out. -/
def valueOfExpression (text : Octets) : Sh Int := do
  let state ← get
  match state.language with
  | .extended => Sh.calculate text
  | .plain =>
      match Arithmetic.evaluate state.value? text with
      | .error problem => Sh.fail (problem.text text)
      | .ok (value, assigned) => do
          for (name, value) in assigned do
            Sh.assign name value
          pure value

mutual

/-- The atoms that some parts of a word stand for. -/
def expandParts (capture : Script -> Sh Octets) :
    Nat -> Mode -> Bool -> Word -> Sh (List Atom)
  | 0, _, _, _ => pure []
  | _ + 1, _, _, [] => pure []
  | fuel + 1, mode, isFirst, part :: rest => do
      let atoms ←
        if isBareList (part :: rest) then pure []
        else expandPart capture fuel mode isFirst rest.isEmpty part
      pure (atoms ++ (← expandParts capture fuel mode false rest))

/-- The atoms that a part of a word stands for; it may be the first part, and the last. -/
def expandPart (capture : Script -> Sh Octets) :
    Nat -> Mode -> Bool -> Bool -> Part -> Sh (List Atom)
  | 0, _, _, _, _ => pure []
  | _ + 1, _, _, _, .text text true =>
      pure (if text.isEmpty then [.mark] else Atom.ofText text true false)
  | _ + 1, mode, isFirst, isLast, .text text false => do
      let atoms := textAtoms (← get) mode isFirst isLast text
      pure (if mode.within then .edge false :: atoms else atoms)
  | _ + 1, _, _, _, .output script quoted => do
      let text ← capture script
      let atoms := Atom.ofText text quoted (!quoted)
      pure (if quoted then atoms else .edge false :: atoms)
  | fuel + 1, _, _, _, .value expression quoted => do
      let text := Atom.text (← expandParts capture fuel { homes := .nowhere } true expression)
      let atoms := Atom.ofText (toString (← valueOfExpression text)) quoted (!quoted)
      pure (if quoted then atoms else .edge false :: atoms)
  | fuel + 1, mode, _, _, .parameter name use word quoted =>
      expandParameter capture fuel mode name use word quoted
  | fuel + 1, mode, _, _, .member name selection indirect use words quoted => do
      if use == .wrong then
        let text := (words.head?.bind plainText?).getD ""
        Sh.discard s!"{text}: bad substitution"
      else
        let subject ←
          match selection with
          | .whole => do pure (wholeSubject (← get) name)
          | .every joined => do pure (everySubject (← get) name joined)
          | .key word => do
              let text ← expandParts capture fuel { homes := .nowhere } true word
              keySubject name (Atom.text text)
        let binding := (← get).binding name
        if indirect && binding.refers && use == .plain then
          return Atom.ofText (binding.value.getD "") quoted (!quoted)
        let subject ←
          if !indirect then pure subject
          else
            match subject.entries with
            | (_, value) :: _ => namedSubject value
            | [] => Sh.discard s!"{name}: invalid indirect expansion"
        expandSubject capture fuel mode subject use words quoted
  | _ + 1, mode, _, _, .names start joined quoted => do
      let state ← get
      let names := (state.bindings.map (·.1)).filter (·.startsWith start)
      let names := names.mergeSort fun a b => decide (a ≤ b)
      let subject : Subject := { label := start, name := start, isList := true, joined }
      pure (subject.atoms state mode quoted names)
  | _ + 1, mode, _, _, .keys name joined quoted => do
      let state ← get
      let subject : Subject := { label := name, name, isList := true, joined }
      pure (subject.atoms state mode quoted ((state.entriesOf name).map (·.1)))
  | fuel + 1, mode, isFirst, isLast, .target name key appends => do
      let start := String.ofList (name.toList ++ if appends then ['+', '='] else ['='])
      match key with
      | none => expandPart capture fuel mode isFirst isLast (.text start false)
      | some key => do
          let text := Atom.text (← expandParts capture fuel { homes := .nowhere } true key)
          let sign := if appends then "+=" else "="
          pure (Atom.ofText s!"{name}[{text}]{sign}" false false)
  | _ + 1, _, _, _, .list _ => pure []

/-- The atoms that the use of values stands for. -/
def expandSubject (capture : Script -> Sh Octets) :
    Nat -> Mode -> Subject -> Use -> List Word -> Bool -> Sh (List Atom)
  | 0, _, _, _, _, _ => pure []
  | fuel + 1, mode, subject, use, words, quoted => do
      let state ← get
      let result (values : List Octets) : Sh (List Atom) := do
        pure (subject.atoms (← get) mode quoted values)
      let isUnbound := subject.entries.isEmpty && !subject.isList && state.has 'u'
      let checked (values : List Octets) : Sh (List Atom) :=
        if isUnbound then failUnbound subject.label
        else if subject.entries.isEmpty then pure []
        else result values
      let inner : Mode :=
        { mode with
          homes := if quoted then .nowhere else .start, within := !quoted }
      let word := words.headD []
      let cells (word : Word) : Sh (List Cell) := do
        pure (Atom.cells (← expandParts capture fuel {} true word))
      let number (word : Word) : Sh (Octets × Int) := do
        let text := Atom.text (← expandParts capture fuel { homes := .nowhere } true word)
        pure (text, ← Sh.calculate text)
      match use with
      | .plain => checked subject.values
      | .length =>
          let isBare := (state.binding (state.meant subject.name)).isBare && state.has 'u'
          if isUnbound then failUnbound subject.label
          else if isBare then failUnbound subject.name
          else
            let count :=
              if subject.isList then subject.entries.length
              else (subject.values.headD "").length
            pure (Atom.ofText (toString count) quoted (!quoted))
      | .otherwise orEmpty =>
          if subject.isMissing orEmpty then expandParts capture fuel inner true word
          else result subject.values
      | .instead orEmpty =>
          if subject.isMissing orEmpty then pure []
          else expandParts capture fuel inner true word
      | .assign orEmpty =>
          if subject.isMissing orEmpty then
            let text :=
              Atom.text (← expandParts capture fuel { inner with splits := false } true word)
            if isName subject.name && !subject.isList then
              Sh.store subject.name subject.key false text
              pure (Atom.ofText text quoted (!quoted))
            else Sh.discard s!"${subject.label}: cannot assign in this way"
          else result subject.values
      | .demand orEmpty =>
          if subject.isMissing orEmpty then
            let atoms ← expandParts capture fuel { inner with splits := false } true word
            failUnset subject.label
              (if word.isEmpty then missingText .extended orEmpty else Atom.text atoms)
          else result subject.values
      | .trimStart longest => do
          let pattern := state.pattern (← cells word)
          checked (subject.values.map (Pattern.trimStart pattern longest))
      | .trimEnd longest => do
          let pattern := state.pattern (← cells word)
          checked (subject.values.map (Pattern.trimEnd pattern longest))
      | .slice => do
          let (_, start) ← number word
          let length ←
            match words[1]? with
            | some word => some <$> number word
            | none => pure none
          match slice state subject start (length.map (·.2)) with
          | .ok values => checked values
          | .error _ => do
              let text := (length.map (·.1)).getD ""
              Sh.discard s!"{text}: substring expression < 0"
      | .replace which => do
          let pattern := state.pattern (← cells word)
          let fillings := Substitution.fillings (← cells (words.getD 1 []))
          checked (subject.values.map (Substitution.replace which pattern fillings))
      | .recase casing every => do
          let pattern ← if word.isEmpty then pure none else some <$> state.pattern <$> cells word
          checked (subject.values.map (Substitution.recase casing every pattern))
      | .transform letter => checked (transformedValues state letter subject)
      | .wrong => pure []

/-- The atoms that the use of a parameter stands for. -/
def expandParameter (capture : Script -> Sh Octets) :
    Nat -> Mode -> Octets -> Use -> Word -> Bool -> Sh (List Atom)
  | 0, _, _, _, _, _ => pure []
  | fuel + 1, mode, name, use, word, quoted => do
      let state ← get
      let value := parameter? state mode name quoted
      let edge := edgeOf state mode name quoted
      let plain : Sh (List Atom) := do
        match value with
        | some atoms => pure (edge ++ atoms)
        | none => if mayBeUnset state name then pure [] else failUnbound name
      let isMissing (orEmpty : Bool) : Bool :=
        match value with
        | none => true
        | some atoms => orEmpty && Atom.extent atoms == 0
      let inner : Mode :=
        { mode with
          homes := if quoted then .nowhere else .start, within := !quoted }
      let pattern : Sh (List Pattern.Piece) := do
        let atoms ← expandParts capture fuel {} true word
        pure (state.pattern (Atom.cells atoms))
      match use with
      | .wrong | .slice | .replace _ | .recase .. | .transform _ => Sh.fail "Bad substitution"
      | .plain => do
          if name == "RANDOM" then modify fun state => { state with draws := state.draws + 1 }
          plain
      | .length =>
          match value with
          | none =>
              if mayBeUnset state name then pure (Atom.ofText "0" quoted (!quoted))
              else failUnbound name
          | some atoms =>
              pure (edgeOf state mode "" quoted ++
                Atom.ofText (toString (Atom.extent atoms)) quoted (!quoted))
      | .otherwise orEmpty =>
          if isMissing orEmpty then expandParts capture fuel inner true word else plain
      | .instead orEmpty =>
          if isMissing orEmpty then pure [] else expandParts capture fuel inner true word
      | .assign orEmpty =>
          if isMissing orEmpty then
            let text :=
              Atom.text (← expandParts capture fuel { inner with splits := false } true word)
            match isName name, state.language with
            | true, .plain => do
                Sh.assign name text
                pure (edge ++ Atom.ofText text quoted (!quoted))
            | true, .extended => do
                Sh.store name none false text
                pure (edge ++ Atom.ofText text quoted (!quoted))
            | false, .plain => Sh.fail s!"{name}: bad variable name"
            | false, .extended => Sh.discard s!"${name}: cannot assign in this way"
          else plain
      | .demand orEmpty =>
          if isMissing orEmpty then
            if word.isEmpty then failUnset name (missingText state.language orEmpty)
            else
              let atoms ← expandParts capture fuel { inner with splits := false } true word
              failUnset name (Atom.text atoms)
          else plain
      | .trimStart longest =>
          match value with
          | none => plain
          | some atoms =>
              let text := Pattern.trimStart (← pattern) longest (Atom.text atoms)
              pure (edge ++ Atom.ofText text quoted (!quoted))
      | .trimEnd longest =>
          match value with
          | none => plain
          | some atoms =>
              let text := Pattern.trimEnd (← pattern) longest (Atom.text atoms)
              pure (edge ++ Atom.ofText text quoted (!quoted))

end

/-! ## Words -/

/-- How deep the parts of words lie within each other, and more. -/
def wordFuel : Nat := 1000000

/-- The arguments that a word stands for, without regard to braces. -/
def fieldsOfWord
    (capture : Script -> Sh Octets)
    (word : Word) : Sh (List Octets) := do
  let atoms ← expandParts capture wordFuel { splits := true } true word
  let fields := fieldsOf (← get).separators atoms
  let files ← fields.mapM filesOf
  pure files.flatten

/-- The arguments that a word stands for. -/
def argumentsOf
    (capture : Script -> Sh Octets)
    (word : Word) : Sh (List Octets) := do
  let state ← get
  if state.language == .extended && state.has 'B' then
    let found ← (Braces.expand word).mapM (fieldsOfWord capture)
    pure found.flatten
  else fieldsOfWord capture word

/-- The text that a word stands for as a value. -/
def valueOf
    (capture : Script -> Sh Octets)
    (word : Word) : Sh Octets := do
  pure (Atom.text (← expandParts capture wordFuel { homes := .starts } true word))

/-- The text that a word stands for as a name. -/
def nameOf
    (capture : Script -> Sh Octets)
    (word : Word) : Sh Octets := do
  pure (Atom.text (← expandParts capture wordFuel {} true word))

/-- The text that a word stands for where there are no homes. -/
def proseOf
    (capture : Script -> Sh Octets)
    (word : Word) : Sh Octets := do
  pure (Atom.text (← expandParts capture wordFuel { homes := .nowhere } true word))

/-- The pattern that a word stands for. -/
def patternOf
    (capture : Script -> Sh Octets)
    (word : Word) : Sh (List Pattern.Piece) := do
  let atoms ← expandParts capture wordFuel {} true word
  pure ((← get).pattern (Atom.cells atoms))

end Shell
end CameraFleet
