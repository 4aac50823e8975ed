import CameraFleet.Programs.Basic
import CameraFleet.Shell.Members
import CameraFleet.Shell.Reader

/-!
# The state of a shell

A shell keeps parameters, functions, options and traps, and it knows where it
is in its script. What it does is an act that changes this state, and that may
be broken off: by a mistake, or because the shell comes to its end.
-/

namespace CameraFleet
namespace Shell

open Host
open Programs

/-- What is known of a parameter with a name. -/
structure Binding where
  /-- Its value, if it is set; for a parameter with members, the value of one of them. -/
  value : Option Octets := none
  /-- Its members. -/
  members : Members := .single
  /-- Whether programs get to know it. -/
  exported : Bool := false
  /-- Whether it must not change. -/
  fixed : Bool := false
  /-- Whether its values are the values of expressions. -/
  isNumber : Bool := false
  /-- How the letters of its values are changed. -/
  casing : Option Casing := none
  /-- Whether its value is the name of the parameter that is meant. -/
  refers : Bool := false
  /-- Whether it has been said to have members, but has not got any. -/
  isBare : Bool := false
  deriving Repr, DecidableEq

/-- A function. -/
structure Function where
  /-- The line on which it starts. -/
  line : Nat
  /-- The command that it stands for. -/
  body : Script
  /-- What complaints name while it runs. -/
  source : Octets := ""

/-- A function that is being run. -/
structure Running where
  /-- Its name, or that of a command that reads a script. -/
  name : Octets
  /-- The line from which it was called. -/
  line : Nat
  /-- What complaints named before. -/
  source : Option Octets
  deriving Repr, DecidableEq

/-- What has to be restored at the end of a function. -/
inductive Local
  /-- What was known of a parameter. -/
  | binding (name : Octets) (before : Option Binding)
  /-- The options. -/
  | options (before : List Char)

/-- Why the commands of a loop or of a function are passed over. -/
inductive Skip
  /-- So many loops are left. -/
  | leaving (loops : Nat)
  /-- So many loops are left but one, which goes on. -/
  | continuing (loops : Nat)
  /-- The function is left; its status may be given. -/
  | returning (given : Bool)
  deriving Repr, DecidableEq

/-- Processes that were started together. -/
structure Job where
  /-- The number of the job. -/
  number : Nat
  /-- The numbers of the processes, and how those that have ended did so. -/
  processes : List (Nat × Option Ending) := []
  /-- Whether somebody has waited for its end. -/
  awaited : Bool := false

/-- The state of a shell. -/
structure State where
  /-- The name of the shell or of its script. -/
  name : Octets
  /-- The arguments. -/
  args : List Octets := []
  /-- The parameters that have names. -/
  bindings : List (Octets × Binding) := []
  /-- What functions have to restore, innermost function first. -/
  locals : List (List Local) := []
  /-- The functions. -/
  functions : List (Octets × Function) := []
  /-- The words that stand for other words at the start of a command. -/
  aliases : List (Octets × Octets) := []
  /-- The status of the last command. -/
  status : Nat := 0
  /-- The status that the shell had when a trap or its end came, or that it was told to end with. -/
  saved : Option Nat := none
  /-- The status of the last command whose output was wanted. -/
  outputStatus : Nat := 0
  /-- The letters of the options that are set. -/
  options : List Char := []
  /-- What is run when a signal comes, or at the end, which has the number zero. -/
  traps : List (Nat × Octets) := []
  /-- The signals that have come. -/
  pending : List Nat := []
  /-- The line that complaints name. -/
  line : Nat := 0
  /-- The command of the shell that complaints name. -/
  command : Option Octets := none
  /-- The number of loops around a command. -/
  loops : Nat := 0
  /-- Why commands are passed over. -/
  skip : Option Skip := none
  /-- The number of functions around a command. -/
  depth : Nat := 0
  /-- The texts that are part of scripts. -/
  documents : List (Nat × Word) := []
  /-- The number for the next such text. -/
  next : Nat := 0
  /-- The number of the shell's process. -/
  process : Nat := 0
  /-- The number of the last process that was started aside. -/
  lastAside : Option Nat := none
  /-- The jobs, newest first. -/
  jobs : List Job := []
  /-- The descriptors that are kept for later, for each group of redirections. -/
  kept : List (List (Nat × Option Nat)) := []
  /-- Whether the shell is at work on showing a command. -/
  tracing : Bool := false
  /-- What a command of the shell has written so far. -/
  written : ByteArray := .empty
  /-- Whether such writing has failed. -/
  unwritten : Bool := false
  /-- The place of the argument at which the search for options goes on. -/
  optionNext : Nat := 1
  /-- How many characters of the argument before it have been taken, if it goes on. -/
  optionPlace : Option Nat := none
  /-- The directory, as the shell came there. -/
  here : Octets := "/"
  /-- The programs that have been found, with their paths, newest first. -/
  found : List (Octets × Octets) := []
  /-- The language of scripts. -/
  language : Language := .plain
  /-- What complaints about a script say about the place where it comes from. -/
  label : Octets := ""
  /-- What complaints name in the place of the shell. -/
  source : Option Octets := none
  /-- Whether the script was an argument of the shell. -/
  fromArgument : Bool := false
  /-- How often the shell has been copied. -/
  level : Nat := 0
  /-- The statuses of the last commands that belonged together. -/
  stages : List Nat := [0]
  /-- The names of the further options that are set. -/
  settings : List Octets := []
  /-- The functions that are being run, innermost first. -/
  running : List Running := []
  /-- How deep what is shown before it runs lies within other commands. -/
  traceDepth : Nat := 0
  /-- The descriptors of commands that are used as files. -/
  channels : List Nat := []
  /-- The directories that are kept for later, newest first. -/
  places : List Octets := []
  /-- How many numbers have been drawn by chance. -/
  draws : Nat := 0
  /-- How many seconds had passed when the shell began. -/
  started : Nat := 0

/-- The place of a name in the tables of a shell. -/
def bucketOf (name : Octets) : Nat :=
  match name.toList with
  | first :: rest =>
      rest.foldl (fun total c => total + c.toNat) (first.toNat * 16 + first.toNat) % 39
  | [] => 0

/-- Why a shell breaks off what it does. -/
inductive Jump
  /-- There was a mistake. -/
  | mistake
  /-- It was told to end. -/
  | exit
  /-- It has come to its end. -/
  | finish
  /-- The rest of a complete command is passed over. -/
  | discard
  deriving Repr, DecidableEq

/-- What a shell does. -/
abbrev Sh := ExceptT Jump (StateT State Act)

/-- How a command is run. -/
structure Manner where
  /-- Whether the shell ends with it. -/
  last : Bool := false
  /-- Whether its status is looked at, so that it may fail. -/
  tested : Bool := false
  deriving Repr, DecidableEq

namespace Manner

/-- The manner of a part of a command that does not come last. -/
def inner (manner : Manner) : Manner :=
  { manner with last := false }

/-- The manner of a command whose status is looked at. -/
def test : Manner := { tested := true }

end Manner

namespace State

/-- Whether an option is set. -/
def has (state : State) (option : Char) : Bool :=
  state.options.contains option

/-- What is known of a parameter. -/
def binding (state : State) (name : Octets) : Binding :=
  (state.bindings.lookup name).getD {}

/-- The value of a parameter with a name, if it is set. -/
def value? (state : State) (name : Octets) : Option Octets :=
  (state.binding name).value

/-- The characters that separate fields. -/
def separators (state : State) : List Char :=
  match state.value? "IFS" with
  | some text => text.toList
  | none => [' ', '\t', '\n']

/-- Replace what is known of a parameter. -/
def bind
    (state : State)
    (name : Octets)
    (binding : Binding) : State :=
  if state.bindings.any (·.1 == name) then
    { state with
      bindings := state.bindings.map fun (other, old) =>
        if other == name then (name, binding) else (other, old) }
  else { state with bindings := state.bindings ++ [(name, binding)] }

/-- What programs get to know of the parameters. -/
def environment (state : State) : List (Octets × Octets) :=
  let known := state.bindings.filterMap fun (name, binding) =>
    if binding.exported && binding.members.isSingle then
      binding.value.map fun value => (name, value)
    else none
  known.mergeSort fun a b => decide (bucketOf a.1 ≤ bucketOf b.1)

/-- Whether the shell waits for signals, or for its end, with a command. -/
def hasTraps (state : State) : Bool :=
  state.traps.any fun (_, text) => !text.isEmpty

end State

/-- The decimal number of a text, which may have blanks around it. -/
def decimal? (text : Octets) : Option Int :=
  let isBlank (c : Char) : Bool := " \t\n\x0b\x0c\r".toList.contains c
  let chars := text.toList.dropWhile isBlank
  integer? (String.ofList (chars.reverse.dropWhile isBlank).reverse)

namespace Sh

/-- Ask the host for something. -/
def call (call : Call) : Sh call.Answer :=
  ExceptT.lift (StateT.lift (Act.call call))

/-- Do what a program does. -/
def act (act : Act α) : Sh α :=
  ExceptT.lift (StateT.lift act)

/-- Break off. -/
def jump (jump : Jump) : Sh α :=
  throw jump

/-- What complaints start with. -/
def complaintStart (state : State) : Octets :=
  match state.language with
  | .plain => s!"{state.name}: {state.line}: "
  | .extended => s!"{state.source.getD state.name}: line {state.line}: "

/-- Complain, but not in the name of a command. -/
def warnBare (text : Octets) : Sh Unit := do
  act (Act.complain s!"{complaintStart (← get)}{text}\n")

/-- Complain, in the name of the command that is run. -/
def warn (text : Octets) : Sh Unit := do
  let who := ((← get).command.map fun command => s!"{command}: ").getD ""
  warnBare s!"{who}{text}"

/-- Write a text; it is shown when the command ends. -/
def print (text : Octets) : Sh Unit :=
  modify fun state => { state with written := state.written ++ Octets.toBytes text }

/-- Write what has been kept of the output. -/
def flush : Sh Unit := do
  let state ← get
  if !state.written.isEmpty then
    modify ({ · with written := .empty })
    match ← call (.write 1 state.written) with
    | .ok () => pure ()
    | .error _ => modify ({ · with unwritten := true })

/-- Complain and break off, with a status. -/
def failWith
    (status : Nat)
    (jump : Jump)
    (text : Octets) : Sh α := do
  warn text
  flush
  modify ({ · with status })
  throw jump

/-- Complain and break off. -/
def fail (text : Octets) : Sh α :=
  failWith 2 .mistake text

/-- Break off the rest of a complete command, after a complaint. -/
def discard (text : Octets) : Sh α := do
  warnBare text
  flush
  modify ({ · with status := 1 })
  throw .discard

/-- Complain about a script, as the extended language does. -/
def warnSyntax
    (label : Octets)
    (error : SyntaxError) : Sh Unit := do
  let state ← get
  let start := s!"{state.source.getD state.name}: {label}line {error.line}: "
  act (Act.complain (String.join (error.texts.map fun text => s!"{start}{text}\n")))

/-- Complain about a script and break off. -/
def failSyntax (error : SyntaxError) : Sh α := do
  match (← get).language with
  | .plain => do
      modify ({ · with line := error.line })
      fail (String.intercalate "\n" error.texts)
  | .extended => do
      warnSyntax (← get).label error
      flush
      modify ({ · with status := error.status })
      throw .mistake

/-- The number of a text, which must be one below a bound that small numbers have. -/
def numberOf (text : Octets) : Sh Nat := do
  match decimal? text with
  | some (.ofNat number) =>
      if number < 2147483648 then pure number else fail s!"Illegal number: {text}"
  | _ => fail s!"Illegal number: {text}"

/-- A parameter must not change. -/
def failFixed (name : Octets) : Sh α := do
  match (← get).language with
  | .plain => fail s!"{name}: is read only"
  | .extended => do
      warnBare s!"{name}: readonly variable"
      modify ({ · with status := 1 })
      throw .mistake

/-- Give a parameter a value; whatever else is known of it remains. -/
def assign
    (name value : Octets) : Sh Unit := do
  let state ← get
  let old := state.binding name
  if old.fixed then failFixed name
  else
    set (state.bind name
      { old with value := some value, exported := old.exported || state.has 'a' })
    if name == "OPTIND" then
      let place ← numberOf value
      modify ({ · with optionNext := max place 1, optionPlace := none })
    if name == "PATH" then modify ({ · with found := [] })

/-- Complain about a name that no parameter can have. -/
def checkName (name : Octets) : Sh Unit := do
  if !isName name then fail s!"{name}: bad variable name"

/-- Let programs know a parameter. -/
def publish (name : Octets) : Sh Unit :=
  modify fun state => state.bind name { state.binding name with exported := true }

/-- Forget a parameter. -/
def unset (name : Octets) : Sh Unit := do
  let state ← get
  if (state.binding name).fixed then fail s!"{name}: is read only"
  else set { state with bindings := state.bindings.filter (·.1 != name) }

/-- Remember what is known of a parameter until the function ends. -/
def shelter (name : Octets) : Sh Unit :=
  modify fun state =>
    match state.locals with
    | [] => state
    | innermost :: outer =>
        let known := innermost.any fun kept =>
          match kept with
          | .binding other _ => other == name
          | .options _ => false
        if known then state
        else
          { state with
            locals := (.binding name (state.bindings.lookup name) :: innermost) :: outer }

/-- Restore something. -/
def restoreLocal
    (state : State)
    (kept : Local) : State :=
  match kept with
  | .options options => { state with options }
  | .binding name none =>
      { state with bindings := state.bindings.filter (·.1 != name) }
  | .binding name (some before) => state.bind name before

/-- Restore what was known of the parameters before a function, whose end this is. -/
def restoreLocals : Sh Unit :=
  modify fun state =>
    match state.locals with
    | [] => state
    | innermost :: outer => { innermost.foldl restoreLocal state with locals := outer }

/-- Do something, and then something else in any case. -/
def ensure
    (body : Sh α)
    (after : Sh Unit) : Sh α := do
  match ← ExceptT.lift body.run with
  | .ok value => do
      after
      pure value
  | .error jump => do
      after
      throw jump

/-- Do something; the result is the jump that broke it off, if any. -/
def attempt (body : Sh α) : Sh (Except Jump α) :=
  ExceptT.lift body.run

end Sh

end Shell
end CameraFleet
