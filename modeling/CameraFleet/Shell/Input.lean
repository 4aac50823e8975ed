import CameraFleet.Shell.Options
import CameraFleet.Shell.Pattern

/-!
# Input for parameters

The commands of the shell that take a line of the input, or the options among
some arguments, apart.
-/

namespace CameraFleet
namespace Shell

open Host

/-! ## Lines -/

/--
The state of splitting a line of which only so many fields are wanted; the last
one gets what is left.
-/
structure LineSplitting where
  /-- The fields that are complete, last one first. -/
  complete : List Octets := []
  /-- The characters of the next field, last one first. -/
  current : List Char := []
  /-- The number of fields still to come. -/
  wanted : Nat
  /-- Whether blanks that separate fields have just been met. -/
  afterBlank : Bool := true
  /-- How many characters at the end of the last field do not belong to it, if any. -/
  tail : Option Nat := none
  deriving Repr, DecidableEq

namespace LineSplitting

/-- The last field goes on. -/
def stepLast (splitting : LineSplitting) (c : Char) (isMark isBlank : Bool) : LineSplitting :=
  let current := c :: splitting.current
  if isBlank then
    { splitting with current, tail := some (splitting.tail.getD 0 + 1) }
  else if isMark && splitting.afterBlank then
    { splitting with current, tail := some (splitting.tail.getD 0 + 1), afterBlank := false }
  else { splitting with current, tail := none, afterBlank := false }

/-- The next character, which may be a mark between fields, and a blank one. -/
def step (splitting : LineSplitting) (c : Char) (isMark isBlank : Bool) : LineSplitting :=
  if splitting.wanted = 0 then splitting.stepLast c isMark isBlank
  else if splitting.afterBlank && isBlank then splitting
  else if splitting.afterBlank && isMark && !splitting.complete.isEmpty &&
      splitting.current.isEmpty then
    { splitting with afterBlank := false }
  else if isMark then
    if splitting.wanted = 1 then
      { splitting with
        wanted := 0, current := c :: splitting.current, tail := some 1, afterBlank := isBlank }
    else
      { splitting with
        complete := String.ofList splitting.current.reverse :: splitting.complete, current := []
        wanted := splitting.wanted - 1, afterBlank := isBlank }
  else { splitting with current := c :: splitting.current, afterBlank := false }

/-- The fields. -/
def fields (splitting : LineSplitting) : List Octets :=
  let last := splitting.current.drop (splitting.tail.getD 0)
  let complete :=
    if last.isEmpty then splitting.complete
    else String.ofList last.reverse :: splitting.complete
  complete.reverse

end LineSplitting

/-- The fields of a line, of which the last one gets what is left. -/
def lineFields
    (separators : List Char)
    (count : Nat)
    (line : List Cell) : List Octets :=
  let start : LineSplitting := { wanted := count }
  (line.foldl (fun splitting cell =>
    let isMark := !cell.quoted && separators.contains cell.char
    splitting.step cell.char isMark (isMark && [' ', '\t', '\n'].contains cell.char)) start).fields

/-- Read a line byte by byte; the cells so far are in reverse order. Whether it had an end. -/
def readCells (isRaw : Bool) : Nat -> Bool -> List Cell -> Sh (List Cell × Bool)
  | 0, _, cells => pure (cells, false)
  | turns + 1, escaped, cells => do
      match ← Sh.call (.readAlertly 0 1) with
      | .error _ => pure (cells, false)
      | .ok bytes =>
          match (Octets.ofBytes bytes).toList.head? with
          | none => pure (cells, false)
          | some '\x00' => readCells isRaw turns escaped cells
          | some c =>
              if escaped then
                if c == '\n' then readCells isRaw turns false cells
                else readCells isRaw turns false ({ char := c, quoted := true } :: cells)
              else if !isRaw && c == '\\' then readCells isRaw turns true cells
              else if c == '\n' then pure (cells, true)
              else readCells isRaw turns false ({ char := c, quoted := false } :: cells)

/-- Give parameters the values of fields; those without a field become empty. -/
def assignFields : List Octets -> List Octets -> Sh Unit
  | [], _ => pure ()
  | name :: names, fields => do
      Sh.checkName name
      Sh.assign name (fields.headD "")
      assignFields names (fields.drop 1)

/-- Read a line and give its fields to parameters. -/
def readCommand (args : List Octets) : Sh Nat := do
  let (given, names) ← readOptions [('p', true), ('r', false)] args
  if names.isEmpty then Sh.fail "arg count"
  else
    let isRaw := given.any (·.1 == 'r')
    let (cells, ended) ← readCells isRaw Programs.manyTurns false []
    let fields := lineFields (← get).separators names.length cells.reverse
    assignFields names fields
    pure (if ended then 0 else 1)

/-! ## Options -/

/-- What is found of the next option. -/
structure FoundOption where
  /-- The letter, or a mark for a mistake or the end. -/
  letter : Char
  /-- The argument of the option; none if it is to be forgotten. -/
  argument : Option Octets
  /-- Whether the argument of the shell stays as it is. -/
  keepsArgument : Bool := false
  /-- The place of the next argument. -/
  next : Nat
  /-- How many characters of the argument before it have been taken, if it goes on. -/
  place : Option Nat := none
  /-- What is said of a mistake. -/
  complaint : Option Octets := none
  /-- Whether there are no more options. -/
  ended : Bool := false

/-- Whether a letter is among some wanted ones, and whether it has an argument. -/
def wantedOption? (letter : Char) : List Char -> Option Bool
  | [] => none
  | c :: ':' :: others => if c == letter then some true else wantedOption? letter others
  | c :: others => if c == letter then some false else wantedOption? letter others

/-- An option whose letter has been found. -/
def foundOption
    (wanted : List Char)
    (args : List Octets)
    (next taken : Nat)
    (letter : Char)
    (rest : List Char) : FoundOption :=
  let isQuiet := wanted.head? == some ':'
  let letters := if isQuiet then wanted.drop 1 else wanted
  let place := if rest.isEmpty then none else some (taken + 1)
  match wantedOption? letter letters with
  | none =>
      if isQuiet then
        { letter := '?', argument := some (String.singleton letter), next, place }
      else
        { letter := '?', argument := none, next, place
          complaint := some s!"Illegal option -{letter}\n" }
  | some false => { letter, argument := some "", next, place }
  | some true =>
      if !rest.isEmpty then { letter, argument := some (String.ofList rest), next }
      else
        match args[next - 1]? with
        | some argument => { letter, argument := some argument, next := next + 1 }
        | none =>
            if isQuiet then
              { letter := ':', argument := some (String.singleton letter), next }
            else
              { letter := '?', argument := none, next
                complaint := some s!"No arg for -{letter} option\n" }

/-- Find the next option of some arguments. -/
def findOption
    (wanted : List Char)
    (args : List Octets)
    (next : Nat)
    (place : Option Nat) : FoundOption :=
  let before := if next ≤ 1 then none else args[next - 2]?
  let going :=
    match place, before with
    | some taken, some arg => (arg.toList.drop taken).head?.map fun c => (taken, c, arg)
    | _, _ => none
  match going with
  | some (taken, letter, arg) =>
      foundOption wanted args next taken letter (arg.toList.drop (taken + 1))
  | none =>
      let finish (next : Nat) : FoundOption :=
        { letter := '?', argument := none, keepsArgument := true, next, ended := true }
      match (args[next - 1]?).map String.toList with
      | some ['-', '-'] => finish (next + 1)
      | some ('-' :: letter :: rest) => foundOption wanted args (next + 1) 1 letter rest
      | _ => finish next

/-- Find the next option and tell parameters of it. -/
def nextOption (args : List Octets) : Sh Nat := do
  match ← operandsOf args with
  | wanted :: name :: rest => do
      let state ← get
      let args := if rest.isEmpty then state.args else rest
      let isOver := args.length + 1 < state.optionNext
      let next := if isOver then 1 else state.optionNext
      let place := if isOver then none else state.optionPlace
      let found := findOption wanted.toList args next place
      match found.complaint with
      | some text => Sh.act (Act.complain text)
      | none => pure ()
      if !found.keepsArgument then
        match found.argument with
        | some argument => Sh.assign "OPTARG" argument
        | none => Sh.unset "OPTARG"
      Sh.assign "OPTIND" (toString found.next)
      Sh.checkName name
      Sh.assign name (String.singleton found.letter)
      modify ({ · with optionNext := found.next, optionPlace := found.place })
      pure (if found.ended then 1 else 0)
  | _ => Sh.fail "Usage: getopts optstring var [arg...]"

end Shell
end CameraFleet
