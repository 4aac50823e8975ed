import CameraFleet.Shell.Extended.Declarations
import CameraFleet.Shell.Input

/-!
# Lines for parameters

The commands of the extended shell that read lines and give them to parameters.
-/

namespace CameraFleet
namespace Shell
namespace Extended

open Host
open Programs (manyTurns natural?)

/-- How a line is read. -/
structure LineStyle where
  /-- The descriptor that is read. -/
  descriptor : Nat := 0
  /-- The character that ends a line. -/
  delimiter : Char := '\n'
  /-- Whether backslashes stand for themselves. -/
  isRaw : Bool := false
  /-- How many characters are read at most. -/
  most : Option Nat := none
  /-- Whether that many are read even if a line ends before. -/
  isExact : Bool := false

/-- Read a line byte by byte; the cells so far are in reverse order. Whether it had an end. -/
def readLine (style : LineStyle) : Nat -> Bool -> List Cell -> Sh (List Cell × Bool)
  | 0, _, cells => pure (cells, false)
  | turns + 1, escaped, cells => do
      if style.most == some cells.length then pure (cells, true)
      else
        match ← Sh.call (.readAlertly style.descriptor 1) with
        | .error _ => pure (cells, false)
        | .ok bytes =>
            match (Octets.ofBytes bytes).toList.head? with
            | none => pure (cells, false)
            | some c =>
                if escaped then
                  if c == '\n' then readLine style turns false cells
                  else readLine style turns false ({ char := c, quoted := true } :: cells)
                else if !style.isRaw && c == '\\' then readLine style turns true cells
                else if c == style.delimiter && !style.isExact then pure (cells, true)
                else if c == '\x00' then readLine style turns escaped cells
                else readLine style turns false ({ char := c, quoted := false } :: cells)

/-- Whether a descriptor can be read; complain if not. -/
def checkDescriptor (descriptor : Nat) : Sh Unit := do
  match ← Sh.call (.lookAt descriptor) with
  | .ok _ => pure ()
  | .error fault => refuse 1 s!"{descriptor}: invalid file descriptor: {fault.text}"

/-- The number that an option gives. -/
def numberFor
    (what : Octets)
    (text : Octets) : Sh Nat := do
  match natural? text with
  | some number => pure number
  | none => refuse 1 s!"{text}: {what}"

/-- The fields of a line without regard to how many there are. -/
def allFields (separators : List Char) (line : List Cell) : List Octets :=
  lineFields separators (line.length + 1) line

/-- Give a name a value, or none of its members if there are no fields. -/
def assignNamed (name value : Octets) : Sh Unit := do
  let (base, key) := Operand.splitKey name.toList
  assignGiven (String.ofList base) key false (.one value)

/-- Give parameters the values of fields; those without a field become empty. -/
def assignEach : List Octets -> List Octets -> Sh Unit
  | [], _ => pure ()
  | name :: names, fields => do
      assignNamed name (fields.headD "")
      assignEach names (fields.drop 1)

/-- Read a line and give its fields to parameters. -/
def readCommand (args : List Octets) : Sh Nat := do
  let known :=
    flags "ers" ++ "adinNptu".toList.map fun letter => (letter, true)
  let (given, names) ← options known args
  let last (letter : Char) : Option Octets := (given.reverse.lookup letter)
  let descriptor ←
    match last 'u' with
    | some text => numberFor "invalid file descriptor specification" text
    | none => pure 0
  let most ←
    match (last 'n').or (last 'N') with
    | some text => some <$> numberFor "invalid number" text
    | none => pure none
  let list := last 'a'
  for name in list.toList ++ names do
    let (base, _) := Operand.splitKey name.toList
    if !(← isNamed name (String.ofList base)) then
      Sh.flush
      modify ({ · with status := 1 })
      Sh.jump .mistake
  if (last 'u').isSome then checkDescriptor descriptor
  if last 't' == some "0" then pure 0
  else
    let delimiter :=
      match last 'd' with
      | some text => text.toList.headD '\x00'
      | none => '\n'
    let style : LineStyle :=
      { descriptor, delimiter, isRaw := (last 'r').isSome, most
        isExact := (last 'N').isSome }
    let (cells, ended) ← readLine style manyTurns false []
    let line := cells.reverse
    let separators := (← get).separators
    match list with
    | some name => do
        let entries := (allFields separators line).map fun value => ({ value } : Sh.Entry)
        Sh.storeList name false entries
    | none =>
        if names.isEmpty then assignNamed "REPLY" (cellText line)
        else if style.isExact then assignEach names [cellText line]
        else assignEach names (lineFields separators names.length line)
    pure (if ended then 0 else 1)

/-- Read lines until there are none, or so many. -/
def readLines (style : LineStyle) (keepsEnds : Bool) : Nat -> Option Nat -> Sh (List Octets)
  | 0, _ => pure []
  | _ + 1, some 0 => pure []
  | turns + 1, most => do
      let (cells, ended) ← readLine style manyTurns false []
      if cells.isEmpty && !ended then pure []
      else
        let text := cellText cells.reverse
        let ending := if ended && keepsEnds then String.singleton style.delimiter else ""
        pure ((text ++ ending) :: (← readLines style keepsEnds turns (most.map (· - 1))))

/-- Read lines and make them the members of a parameter. -/
def mapfileCommand (args : List Octets) : Sh Nat := do
  let known := ('t', false) :: "dnOsuCc".toList.map fun letter => (letter, true)
  let (given, names) ← options known args
  let last (letter : Char) : Option Octets := (given.reverse.lookup letter)
  let count (letter : Char) (what : Octets) : Sh (Option Nat) := do
    match last letter with
    | some text => some <$> numberFor what text
    | none => pure none
  let descriptor := (← count 'u' "invalid file descriptor specification").getD 0
  let most := (← count 'n' "invalid line count").filter (0 < ·)
  let skipped := (← count 's' "invalid line count").getD 0
  let origin ← count 'O' "invalid array origin"
  if (last 'u').isSome then checkDescriptor descriptor
  let name := names.headD "MAPFILE"
  if !(← isNamed name name) then pure 1
  else
    let delimiter :=
      match last 'd' with
      | some text => text.toList.headD '\x00'
      | none => '\n'
    let style : LineStyle := { descriptor, delimiter, isRaw := true }
    let keepsEnds := (last 't').isNone
    let _ ← readLines style keepsEnds manyTurns (some skipped)
    let lines ← readLines style keepsEnds manyTurns most
    let start := origin.getD 0
    let entries := lines.zipIdx.map fun (value, place) =>
      ({ key := some (toString (start + place)), value } : Sh.Entry)
    Sh.storeList name origin.isSome entries
    pure 0

end Extended
end Shell
end CameraFleet
