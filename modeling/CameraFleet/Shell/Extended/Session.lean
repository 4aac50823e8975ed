import CameraFleet.Shell.Session

/-!
# Sessions of the extended shell

The extended shell takes long options, options of letters, and then its script:
from an argument, from a file, or from its input. It tells its script about
itself with parameters.
-/

namespace CameraFleet
namespace Shell
namespace Extended

open Host
open Programs

/-- The version of the language. -/
def version : Octets := "5.2.21(1)-release"

/-- The machine for which the shell is made. -/
def machine : Octets := "x86_64-pc-linux-gnu"

/-- The parts of the version and the machine. -/
def versionParts : List Octets :=
  ["5", "2", "21", "1", "release", machine]

/-- The parameters that every extended shell has. -/
def usualBindings (parent : Nat) : List (Octets × Binding) :=
  let parts := versionParts.zipIdx.map fun (part, place) => (place, part)
  let account : Binding := { value := some "0", isNumber := true, fixed := true }
  [("BASH", { value := some "/usr/bin/bash" }), ("BASHOPTS", { fixed := true }),
    ("BASH_VERSINFO", { value := some "5", members := .numbered parts, fixed := true }),
    ("BASH_VERSION", { value := some version }), ("EUID", account),
    ("HOSTTYPE", { value := some "x86_64" }), ("IFS", { value := some " \t\n" }),
    ("MACHTYPE", { value := some machine }), ("OPTERR", { value := some "1" }),
    ("OPTIND", { value := some "1", isNumber := true }),
    ("OSTYPE", { value := some "linux-gnu" }), ("PATH", { value := some usualDirectories }),
    ("PPID", { value := some (toString parent), isNumber := true, fixed := true }),
    ("PS4", { value := some "+ " }), ("SHELL", { value := some "/bin/bash" }),
    ("SHELLOPTS", { fixed := true }),
    ("UID", account), ("_", { value := some "/usr/bin/bash" })]

/-- The parameters that a shell does not take from its environment. -/
def ownNames : List Octets :=
  ["BASH_VERSINFO", "BASHOPTS", "EUID", "IFS", "OPTIND", "PPID", "SHELLOPTS", "UID"]

/-- How often shells lie within each other, by what the environment tells of that. -/
def nesting (told : Option Octets) : Nat :=
  match (told.bind decimal?) with
  | some (.ofNat number) => number + 1
  | _ => 1

/-- The state of an extended shell that knows its environment only. -/
def freshState
    (launch : Launch)
    (process parent : Nat) : State :=
  let start : State :=
    { name := launch.name, process, bindings := usualBindings parent, language := .extended
      options := ['h', 'B'], settings := startingOptions }
  let given := launch.environment.foldl (fun state (name, value) =>
    if isName name && !ownNames.contains name then
      state.bind name { value := some value, exported := true }
    else state) start
  let level := toString (nesting (launch.environment.lookup "SHLVL"))
  let known := (given.bindings.lookup "OLDPWD").isSome
  let given := if known then given else given.bind "OLDPWD" { exported := true }
  given.bind "SHLVL" { value := some level, exported := true }

/-! ## Options -/

/-- The long options, each with whether it has an argument. -/
def longOptions : List (Octets × Bool) :=
  [("debug", false), ("debugger", false), ("init-file", true), ("login", false),
    ("noediting", false), ("noprofile", false), ("norc", false), ("posix", false),
    ("rcfile", true), ("restricted", false), ("verbose", false)]

/-- How the shell is used. -/
def sessionUsage (name : Octets) : Octets :=
  let names := ["debug", "debugger", "dump-po-strings", "dump-strings", "help", "init-file",
    "login", "noediting", "noprofile", "norc", "posix", "pretty-print", "rcfile", "restricted",
    "verbose", "version"]
  let long := String.join (names.map fun option => s!"\t--{option}\n")
  s!"Usage:\t{name} [GNU long option] [option] ...\n" ++
    s!"\t{name} [GNU long option] [option] script-file ...\n" ++
    s!"GNU long options:\n{long}Shell options:\n" ++
    "\t-ilrsD or -c command or -O shopt_option\t\t(invocation only)\n" ++
    "\t-abefhkmnptuvxBCEHPT or -o option\n"

/-- Complain about the shell's own arguments and break off. -/
def failStart
    (status : Nat)
    (text : Octets) : Sh α := do
  Sh.act (Act.complain s!"{(← get).name}: {text}\n")
  modify ({ · with status })
  Sh.jump .mistake

/-- Complain about an option that there is not. -/
def failOption (option : Octets) : Sh α := do
  let usage := sessionUsage (← get).name
  failStart 2 s!"{option}: invalid option\n{usage.dropEnd 1}"

/-- Take a long option. -/
def takeLong (name : Octets) : Sh Unit := do
  match name with
  | "posix" => changeSetting "posix" true
  | "verbose" => setOption 'v' true
  | _ => pure ()

/-- Take the long options at the start of some arguments. -/
def takeLongOptions : List Octets -> Sh (List Octets)
  | [] => pure []
  | arg :: args => do
      let isLong := arg.startsWith "--"
      let name := String.ofList (arg.toList.drop (if isLong then 2 else 1))
      match arg.startsWith "-", longOptions.lookup name with
      | false, _ => pure (arg :: args)
      | true, none =>
          if isLong && !name.isEmpty then failOption arg else pure (arg :: args)
      | true, some false => do
          takeLong name
          takeLongOptions args
      | true, some true =>
          match args with
          | [] => failStart 2 s!"{name}: option requires an argument"
          | _ :: args => takeLongOptions args

/-- Take the options of a group of letters; the arguments that are left. -/
def takeLetters (value : Bool) : List Char -> List Octets -> Sh (List Octets)
  | [], args => pure args
  | letter :: rest, args => do
      match letter, args with
      | 'c', _ | 's', _ => do
          setOption letter true
          takeLetters value rest args
      | 'l', _ | 'i', _ | 'r', _ | 'D', _ => takeLetters value rest args
      | 'o', name :: args => do
          if !(← changeNamed name value) then
            failStart 2 s!"line 0: {(← get).name}: {name}: invalid option name"
          takeLetters value rest args
      | 'o', [] => do
          showAllOptions value
          takeLetters value rest []
      | 'O', name :: args => do
          if !(furtherOptions.any (·.1 == name)) then
            failStart 2 s!"line 0: {name}: invalid shell option name"
          changeSetting name value
          takeLetters value rest args
      | letter, args => do
          if !isOptionLetter letter then
            failOption s!"{signOf value}{letter}"
          setOption letter value
          takeLetters value rest args

/-- Take the options at the start of some arguments. -/
def takeGroups : Nat -> List Octets -> Sh (List Octets)
  | 0, args => pure args
  | _ + 1, [] => pure []
  | fuel + 1, arg :: args => do
      match arg.toList with
      | ['-'] | ['-', '-'] => pure args
      | '-' :: letters => do takeGroups fuel (← takeLetters true letters args)
      | '+' :: letters => do takeGroups fuel (← takeLetters false letters args)
      | _ => pure (arg :: args)

/-! ## Scripts -/

/-- Run a script, which the session ends with or not. -/
def runScript
    (starter : Starter)
    (text : Octets) : Sh Unit := do
  let _ ← runText starter manyTurns { last := true } text

/-- Run the script that is the next argument. -/
def runArgumentScript
    (starter : Starter)
    (args : List Octets) : Sh Unit := do
  match args with
  | [] => failStart 2 "-c: option requires an argument"
  | script :: rest => do
      modify ({ · with label := "-c: ", fromArgument := true })
      match rest with
      | [] => setArgs []
      | name :: args => do
          modify ({ · with name })
          setArgs args
      modify (·.bind "BASH_EXECUTION_STRING" { value := some script })
      runScript starter script

/-- Run the script that is in a file. -/
def runScriptFile
    (starter : Starter)
    (named : Octets)
    (args : List Octets) : Sh Unit := do
  let here ← Sh.call (.look named true)
  let path ← if here.toOption.isSome then pure named else findScript named
  match ← Sh.call (.look path true) with
  | .ok sight =>
      if sight.kind == .entry .directory then
        modify ({ · with name := path })
        failStart 126 s!"{path}: {Fault.isDirectory.text}"
      if sight.kind == .entry .program then
        modify ({ · with name := path })
        failStart 126 s!"{path}: cannot execute binary file"
  | .error _ => pure ()
  match ← Sh.call (.open path .reading) with
  | .error fault => failStart (if fault == .missing then 127 else 126) s!"{path}: {fault.text}"
  | .ok descriptor => do
      let read ← Sh.act (readAll descriptor)
      let _ ← Sh.call (.close descriptor)
      modify ({ · with name := path })
      setArgs args
      runScript starter (Octets.ofBytes (read.toOption.getD .empty))

/-- Run the script that is read from the input. -/
def runInputScript (starter : Starter) : Sh Unit := do
  match ← Sh.act (readAll 0) with
  | .ok bytes => runScript starter (Octets.ofBytes bytes)
  | .error _ => pure ()

/-- Run the script that the arguments mean. -/
def runArguments
    (starter : Starter)
    (args : List Octets) : Sh Unit := do
  findPlace
  let args ← takeLongOptions args
  let left ← takeGroups (args.length + 1) args
  let state ← get
  if state.has 'c' then runArgumentScript starter left
  else
    match left, state.has 's' with
    | path :: rest, false => runScriptFile starter path rest
    | rest, _ => do
        setOption 's' true
        setArgs rest
        runInputScript starter

/-- A shell of the extended language. -/
def session (starter : Starter) : Program := fun launch => do
  let (process, parent) ← Act.call .identity
  let whole : Sh Nat := do
    let jump ← Sh.attempt (runArguments starter launch.args)
    conclude starter manyTurns
      (match jump with
      | .ok () => none
      | .error jump => some jump)
  let (result, state) ← (whole.run).run (freshState launch process parent)
  pure (match result with
    | .ok status => status
    | .error _ => state.status)

end Extended
end Shell
end CameraFleet
