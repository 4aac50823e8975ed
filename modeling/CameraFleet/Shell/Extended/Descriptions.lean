import CameraFleet.Shell.Description
import CameraFleet.Shell.Extended.Quoting
import CameraFleet.Shell.Extended.Usage

/-!
# Descriptions of commands in the extended shell

The commands of the extended shell that tell what the name of a command stands
for.
-/

namespace CameraFleet
namespace Shell
namespace Extended

open Host

/-- The commands that the extended shell carries out by itself. -/
def commandNames : List Octets :=
  [".", ":", "[", "alias", "bg", "bind", "break", "builtin", "caller", "cd", "command",
    "compgen", "complete", "compopt", "continue", "declare", "dirs", "disown", "echo",
    "enable", "eval", "exec", "exit", "export", "false", "fc", "fg", "getopts", "hash",
    "help", "history", "jobs", "kill", "let", "local", "logout", "mapfile", "popd",
    "printf", "pushd", "pwd", "read", "readarray", "readonly", "return", "set", "shift",
    "shopt", "source", "suspend", "test", "times", "trap", "true", "type", "typeset",
    "ulimit", "umask", "unalias", "unset", "wait"]

/-- What the name of a command stands for. -/
inductive Kind
  /-- Another text. -/
  | alias (text : Octets)
  /-- A word with a meaning of its own. -/
  | keyword
  /-- A function. -/
  | function
  /-- A command of the shell. -/
  | builtin
  /-- A program that has been found before. -/
  | found (path : Octets)
  /-- A program. -/
  | file (path : Octets)
  deriving Repr, DecidableEq

/-- The word for a kind. -/
def Kind.word : Kind -> Octets
  | .alias _ => "alias"
  | .keyword => "keyword"
  | .function => "function"
  | .builtin => "builtin"
  | .found _ | .file _ => "file"

/-- The keywords that have a meaning of their own within commands. -/
def innerKeywords : List Octets := ["]]", "coproc"]

/-- Whether a path is that of a program. -/
def isProgram (path : Octets) : Sh Bool := do
  match ← Sh.call (.look path true) with
  | .ok sight =>
      match sight.kind with
      | .entry .directory => pure false
      | _ => pure sight.isRunnable
  | .error _ => pure false

/-- The paths of the programs of a name. -/
def programPaths (directories : Octets) (name : Octets) : Sh (List Octets) := do
  if name.contains '/' then pure (if ← isProgram name then [name] else [])
  else ((directories.splitOn ":").map fun directory =>
    Programs.inDirectory directory name).filterM isProgram

/-- All that a name stands for, in the order of preference. -/
def kindsOf (directories : Octets) (name : Octets) : Sh (List Kind) := do
  let state ← get
  let paths ← programPaths directories name
  let known : List Kind :=
    ((state.found.lookup name).map fun path => [Kind.found path]).getD []
  let isKeyword :=
    (Token.keywords .extended).contains name || innerKeywords.contains name
  pure ((if isKeyword then [.keyword] else []) ++
    (if (state.functions.lookup name).isSome then [.function] else []) ++
    (if commandNames.contains name then [.builtin] else []) ++
    known ++ paths.map .file)

/-- What is said of a kind in words. -/
def sentence (name : Octets) : Kind -> Octets
  | .alias text => s!"{name} is aliased to \x60{text}'"
  | .keyword => s!"{name} is a shell keyword"
  | .function => s!"{name} is a function"
  | .builtin => s!"{name} is a shell builtin"
  | .found path => s!"{name} is hashed ({path})"
  | .file path => s!"{name} is {path}"

/-- Where programs are looked for. -/
def searchPath : Sh Octets := do
  pure (((← get).value? "PATH").getD "")

/-- Tell what a name stands for, as letters say; the status. -/
def typeOne (letters : List Char) (name : Octets) : Sh Nat := do
  let has (letter : Char) : Bool := letters.contains letter
  let found ← kindsOf (← searchPath) name
  let found := if has 'f' then found.filter (· != .function) else found
  let found :=
    if has 'P' then
      found.filter fun kind => kind.word == "file"
    else found
  let found := if has 'a' then found.filter fun kind => !(kind matches .found _) else found.take 1
  if found.isEmpty then
    if !has 't' && !has 'p' && !has 'P' then Sh.warn s!"{name}: not found"
    pure 1
  else
    for kind in found do
      let path? : Option Octets :=
        match kind with
        | .found path | .file path => some path
        | _ => none
      if has 't' then Sh.print s!"{kind.word}\n"
      else if has 'p' || has 'P' then
        match path? with
        | some path => Sh.print s!"{path}\n"
        | none => pure ()
      else Sh.print s!"{sentence name kind}\n"
    pure 0

/-- Tell what some names stand for. -/
def typeCommand (args : List Octets) : Sh Nat := do
  let (given, names) ← options (flags "afptP") args
  let statuses ← names.mapM (typeOne (given.map (·.1)))
  pure (statuses.foldl max 0)

/-- Tell what a name stands for, by a text that can be used or in words; the status. -/
def describeCommand (verbose : Bool) (directories name : Octets) : Sh Nat := do
  match ← kindsOf directories name with
  | [] => do
      if verbose then Sh.warn s!"{name}: not found"
      pure 1
  | kind :: _ => do
      let brief : Octets :=
        match kind with
        | .found path | .file path => path
        | _ => name
      Sh.print (if verbose then s!"{sentence name kind}\n" else s!"{brief}\n")
      pure 0

/-- Show the paths of programs that have been found, look for some, or forget them. -/
def hashCommand (args : List Octets) : Sh Nat := do
  let (given, names) ← options (flags "lrdt" ++ [('p', true)]) args
  let letters := given.map (·.1)
  let state ← get
  if letters.contains 'r' then modify ({ · with found := [] })
  if names.isEmpty then
    if letters.isEmpty then
      if state.found.isEmpty then Sh.print "hash: hash table empty\n"
      else
        Sh.print "hits\tcommand\n"
        for (_, path) in state.found do
          Sh.print s!"   1\t{path}\n"
    pure 0
  else
    let statuses ← names.mapM fun name => do
      if letters.contains 'd' then
        modify fun state => { state with found := state.found.filter (·.1 != name) }
        pure 0
      else if letters.contains 't' then
        match (← get).found.lookup name with
        | some path => do
            Sh.print s!"{path}\n"
            pure 0
        | none => complain s!"{name}: not found"
      else if name.contains '/' || commandNames.contains name then pure 0
      else
        match ← findProgram (some (← searchPath)) name with
        | .ok _ => pure 0
        | .error _ => complain s!"{name}: not found"
    pure (statuses.foldl max 0)

/-- Let words stand for other words, or show for what they stand. -/
def aliasCommand (args : List Octets) : Sh Nat := do
  let (_, names) ← options (flags "p") args
  let entry (name value : Octets) : Sh Unit :=
    Sh.print s!"alias {name}={Quoting.always value}\n"
  if names.isEmpty then
    for (name, value) in (← get).aliases.mergeSort fun a b => decide (a.1 ≤ b.1) do
      entry name value
    pure 0
  else
    let statuses ← names.mapM fun arg => do
      let chars := arg.toList
      let name := String.ofList (chars.takeWhile (· != '='))
      match chars.dropWhile (· != '=') with
      | _ :: value => do
          modify fun state =>
            { state with
              aliases := (name, String.ofList value) :: state.aliases.filter (·.1 != name) }
          pure 0
      | [] =>
          match (← get).aliases.lookup name with
          | some value => do
              entry name value
              pure 0
          | none => complain s!"{name}: not found"
    pure (statuses.foldl max 0)

/-- Let words stand for themselves again. -/
def unaliasCommand (args : List Octets) : Sh Nat := do
  let (given, names) ← options (flags "a") args
  if !given.isEmpty then
    modify ({ · with aliases := [] })
    pure 0
  else if names.isEmpty then tellUsage
  else
    let statuses ← names.mapM fun name => do
      if ((← get).aliases.lookup name).isSome then
        modify fun state => { state with aliases := state.aliases.filter (·.1 != name) }
        pure 0
      else complain s!"{name}: not found"
    pure (statuses.foldl max 0)

/-- Show the commands of the shell. -/
def enableCommand (args : List Octets) : Sh Nat := do
  let (given, names) ← options (flags "adnps" ++ [('f', true)]) args
  if names.isEmpty then
    if !given.any (·.1 == 'n') then
      for name in commandNames do
        Sh.print s!"enable {name}\n"
    pure 0
  else
    let statuses ← names.mapM fun name => do
      if commandNames.contains name then pure 0 else complain s!"{name}: not a shell builtin"
    pure (statuses.foldl max 0)

end Extended
end Shell
end CameraFleet
