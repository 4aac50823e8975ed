import CameraFleet.Shell.Lookup
import CameraFleet.Shell.Options

/-!
# Descriptions of commands

The commands of the shell that tell what the name of a command stands for, and
that let words stand for other words.
-/

namespace CameraFleet
namespace Shell

open Host

/-- Find the path of a program; paths that have been found before are known. -/
def findProgram
    (directories : Option Octets)
    (name : Octets) : Sh (Except Fault Octets) := do
  let state ← get
  let own := state.value? "PATH"
  match if directories == own then state.found.lookup name else none with
  | some path => pure (.ok path)
  | none => do
      let found ← searchProgram directories name
      match found with
      | .ok path =>
          if directories == own && !name.contains '/' then
            modify fun state => { state with found := state.found ++ [(name, path)] }
      | .error _ => pure ()
      pure found

/-- Tell in words, or by a text that can be used, what a name stands for. -/
def describe
    (verbose : Bool)
    (directories : Option Octets)
    (name : Octets) : Sh Nat := do
  let state ← get
  let tell (words text : Octets) : Sh Nat := do
    Sh.print (if verbose then s!"{name} {words}\n" else s!"{text}\n")
    pure 0
  if (Token.keywords state.language).contains name then tell "is a shell keyword" name
  else
    match state.aliases.lookup name with
    | some value =>
        tell s!"is an alias for {value}" s!"alias {name}={quoteWord value}"
    | none =>
        match state.meaning true name with
        | .function .. => tell "is a shell function" name
        | .command special =>
            tell (if special then "is a special shell builtin" else "is a shell builtin") name
        | .program => do
            let isTracked := directories.isNone && (state.found.lookup name).isSome
            let found ←
              if name.contains '/' then do
                match ← Sh.call (.look name true) with
                | .ok _ => pure (.ok name)
                | .error fault => pure (.error fault)
              else findProgram (directories.or (state.value? "PATH")) name
            match found with
            | .ok path =>
                tell (if isTracked then s!"is a tracked alias for {path}" else s!"is {path}") path
            | .error _ => do
                if verbose then Sh.print s!"{name}: not found\n"
                pure 127

/-- Tell what some names stand for. -/
def describeEach (args : List Octets) : Sh Nat := do
  let statuses ← args.mapM (describe true none)
  pure (statuses.foldl (· ||| ·) 0)

/-- Tell what a name stands for, as the options of the command for commands say. -/
def describeOne (args : List Octets) : Sh Nat := do
  let (given, operands) ← readOptions [('p', false), ('v', false), ('V', false)] args
  let letters := given.map (·.1)
  let directories := if letters.contains 'p' then some usualDirectories else none
  let asked := letters.filter (· != 'p')
  match operands with
  | [] => pure 0
  | name :: _ =>
      if asked.isEmpty then pure 0
      else describe (asked.contains 'V') directories name

/-- Show the paths of programs that have been found, look for some, or forget all. -/
def hash (args : List Octets) : Sh Nat := do
  let (given, operands) ← readOptions [('r', false)] args
  if !given.isEmpty then
    modify ({ · with found := [] })
    pure 0
  else if operands.isEmpty then
    let found := (← get).found
    for (_, path) in found.mergeSort fun a b => decide (bucketOf a.1 % 31 ≤ bucketOf b.1 % 31) do
      Sh.print s!"{path}\n"
    pure 0
  else
    let statuses ← operands.mapM fun name => do
      match (← get).meaning true name with
      | .program => do
          match ← findProgram ((← get).value? "PATH") name with
          | .ok _ => pure 0
          | .error fault => do
              Sh.warn s!"{name}: {runFaultText fault}"
              pure 1
      | _ => pure 0
    pure (statuses.foldl (· ||| ·) 0)

/-- Show what a word stands for. -/
def showAlias (entry : Octets × Octets) : Sh Unit :=
  Sh.print s!"{entry.1}={quoteWord entry.2}\n"

/-- Let words stand for other words, or show for what they stand. -/
def aliasEach (status : Nat) : List Octets -> Sh Nat
  | [] => pure status
  | arg :: rest => do
      match arg.toList with
      | first :: chars =>
          let name := String.ofList (first :: chars.takeWhile (· != '='))
          match chars.dropWhile (· != '=') with
          | _ :: value => do
              modify fun state =>
                { state with
                  aliases := (name, String.ofList value) ::
                    state.aliases.filter (·.1 != name) }
              aliasEach status rest
          | [] => do
              match (← get).aliases.lookup arg with
              | some value => do
                  showAlias (arg, value)
                  aliasEach status rest
              | none => do
                  Sh.act (Act.complain s!"alias: {arg} not found\n")
                  aliasEach 1 rest
      | [] => do
          Sh.act (Act.complain "alias:  not found\n")
          aliasEach 1 rest

/-- Let words stand for other words, or show all that do. -/
def aliasCommand (args : List Octets) : Sh Nat := do
  if args.isEmpty then
    let known := (← get).aliases
    for entry in known.mergeSort fun a b => decide (bucketOf a.1 ≤ bucketOf b.1) do
      showAlias entry
    pure 0
  else aliasEach 0 args

/-- Let words stand for themselves again. -/
def unalias (args : List Octets) : Sh Nat := do
  let (given, operands) ← readOptions [('a', false)] args
  if !given.isEmpty then
    modify ({ · with aliases := [] })
    pure 0
  else
    let statuses ← operands.mapM fun name => do
      let known := (← get).aliases
      if known.any (·.1 == name) then
        modify ({ · with aliases := known.filter (·.1 != name) })
        pure 0
      else
        Sh.act (Act.complain s!"unalias: {name} not found\n")
        pure 1
    pure (statuses.foldl (· ||| ·) 0)

end Shell
end CameraFleet
