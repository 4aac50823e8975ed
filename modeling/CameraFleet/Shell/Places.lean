import CameraFleet.Host.Rights
import CameraFleet.Shell.Options

/-!
# Places

The commands of the shell that deal with its directory and with the rights of
new files. The shell remembers how it came to its directory, so that the
directory above a link is the one that contains the link.
-/

namespace CameraFleet
namespace Shell

open Host

/-- A name of a path is followed; the names so far are in reverse order. -/
def follow (names : List Octets) (name : Octets) : List Octets :=
  if name.isEmpty || name == "." then names
  else if name == ".." then names.drop 1
  else name :: names

/-- The path to which a text leads from a directory, without regard to links. -/
def pathFrom (here text : Octets) : Octets :=
  let isAbsolute := text.startsWith "/"
  let source := if isAbsolute then text else here
  let isDouble := source.startsWith "//" && !source.startsWith "///"
  let start := if isAbsolute then [] else (here.splitOn "/").foldl follow []
  let names := ((text.splitOn "/").foldl follow start).reverse
  (if isDouble then "//" else "/") ++ String.intercalate "/" names

/-- The path of the directory without links. -/
def physicalPlace : Sh Octets := do
  pure (Path.text (← Sh.call .here))

/-- The shell has come to a directory. -/
def arrive
    (place : Octets)
    (remembers : Bool) : Sh Unit := do
  if remembers then
    Sh.assign "OLDPWD" (← get).here
    Sh.publish "OLDPWD"
  modify ({ · with here := place })
  Sh.assign "PWD" place
  Sh.publish "PWD"

/-- Go to a directory; whether this succeeds. -/
def goTo
    (isPhysical : Bool)
    (target : Octets) : Sh Bool := do
  let logical := pathFrom (← get).here target
  match ← Sh.call (.enter (if isPhysical then target else logical)) with
  | .error _ => pure false
  | .ok () => do
      let place ← if isPhysical then physicalPlace else pure logical
      arrive place true
      pure true

/-- Whether a path starts at the root or says that it starts here. -/
def isAnchored (target : Octets) : Bool :=
  target.startsWith "/" || target == "." || target == ".." ||
    target.startsWith "./" || target.startsWith "../"

/-- The first of some directories that has a directory of a name, with the path of that. -/
def searchPlace (name : Octets) : List Octets -> Sh (Option (Octets × Octets))
  | [] => pure none
  | start :: rest => do
      let path :=
        if start.isEmpty then name else if start.endsWith "/" then start ++ name
        else start ++ "/" ++ name
      match ← Sh.call (.look path true) with
      | .ok sight =>
          if sight.kind == .entry .directory then pure (some (start, path))
          else searchPlace name rest
      | .error _ => searchPlace name rest

/-- Whether the last of some options asks for paths without links. -/
def asksPhysical (given : List (Char × Octets)) : Bool :=
  (given.getLast?.map (·.1)) == some 'P'

/-- The options that say whether paths have links. -/
def linkOptions : List (Char × Bool) := [('L', false), ('P', false)]

/-- Go to a directory. -/
def changePlace (args : List Octets) : Sh Nat := do
  let (given, operands) ← readOptions linkOptions args
  let isPhysical := asksPhysical given
  let state ← get
  let (target, tells) :=
    match operands with
    | [] => ((state.value? "HOME").getD "", false)
    | "-" :: _ => ((state.value? "OLDPWD").getD "", true)
    | target :: _ => (target, false)
  let found ←
    if isAnchored target then pure none
    else
      let name := if target.isEmpty then "." else target
      searchPlace name (((state.value? "CDPATH").getD "").splitOn ":")
  let (path, tells) :=
    match found with
    | some (start, path) => (path, tells || !start.isEmpty)
    | none => (target, tells)
  if ← goTo isPhysical path then
    if tells then Sh.print s!"{(← get).here}\n"
    pure 0
  else Sh.fail s!"can't cd to {target}"

/-- Show the directory. -/
def showPlace (args : List Octets) : Sh Nat := do
  let (given, _) ← readOptions linkOptions args
  let place ← if asksPhysical given then physicalPlace else do pure (← get).here
  Sh.print s!"{place}\n"
  pure 0

/-! ## Rights -/

/-- Show or change the mask of rights that new files do not get. -/
def changeMask (args : List Octets) : Sh Nat := do
  let (given, operands) ← readOptions [('S', false)] args
  let mask ← Sh.call (.mask none)
  let change (rights : Nat) : Sh Unit := do
    let _ ← Sh.call (.mask (some rights))
  match operands with
  | [] =>
      if given.isEmpty then Sh.print s!"{Rights.fourDigits mask}\n"
      else
        let rights := 511 - mask
        let (user, group) := (Rights.letters (rights / 64), Rights.letters (rights / 8))
        Sh.print s!"u={user},g={group},o={Rights.letters rights}\n"
  | text :: _ =>
      if text.toList.head?.any Char.isDigit then
        match Rights.octal? text with
        | some mask => change (mask % 512)
        | none => Sh.fail s!"Illegal number: {text}"
      else
        match Rights.described? text 0 false (511 - mask) with
        | some rights => change (511 - rights % 512)
        | none => Sh.fail s!"Illegal mode: {text}"
  pure 0

end Shell
end CameraFleet
