import CameraFleet.Shell.Extended.Commands
import CameraFleet.Shell.Rewiring

/-!
# Running commands of the extended language

What the interpreter needs to run a command of the extended language: its words
as operands, the trace of what is run, and how programs are found.
-/

namespace CameraFleet
namespace Shell
namespace Extended

open Host
open Programs

/-! ## Operands -/

/-- The members that a word of a list stands for. -/
def entriesOfWord
    (capture : Script -> Sh Octets)
    (word : Word) : Sh (List Sh.Entry) := do
  match destination? word with
  | some ({ key := some key, appends, .. }, value) => do
      let text ← proseOf capture key
      pure [{ key := some text, appends, value := ← valueOf capture value }]
  | _ => do
      pure ((← argumentsOf capture word).map fun value => { value })

/-- What an assignment gives, with its words expanded. -/
def givenOf
    (capture : Script -> Sh Octets)
    (value : Word) : Sh Given := do
  match value with
  | [.list members] => do
      let entries ← members.mapM (entriesOfWord capture)
      pure (.list entries.flatten)
  | value => do pure (.one (← valueOf capture value))

/-- The operands that a word stands for. -/
def operandsOfWord
    (capture : Script -> Sh Octets)
    (word : Word) : Sh (List Operand) := do
  match destination? word with
  | some (destination, value) => do
      let key ←
        match destination.key with
        | some key => some <$> proseOf capture key
        | none => pure none
      let given ← givenOf capture value
      pure [.assignment destination.name key destination.appends given]
  | none => do pure ((← argumentsOf capture word).map .text)

/-- The operands that some words stand for. -/
def operandsOf
    (capture : Script -> Sh Octets)
    (words : List Word) : Sh (List Operand) := do
  let words :=
    if (← get).has 'B' then
      words.flatMap fun word => if (destination? word).isSome then Braces.expand word else [word]
    else words
  pure (← words.mapM (operandsOfWord capture)).flatten

/-- The operands after the name of a command that declares; other commands get texts only. -/
def operandsFor (name : Octets) (texts : List Operand) : List Operand :=
  if (declaring? name).isSome then
    texts.map fun operand =>
      match operand with
      | .text text => Operand.ofText text
      | operand => operand
  else texts

/-- Carry out an assignment. -/
def assign (operand : Operand) : Sh Unit := do
  match operand with
  | .assignment name key appends given => assignGiven name key appends given
  | .text _ => pure ()

/-- The name that an operand assigns to. -/
def assignedName (operand : Operand) : Octets :=
  match operand with
  | .assignment name .. => name
  | .text text => text

/-! ## The trace -/

/-- An operand as the trace shows it. -/
def tracedOperand (operand : Operand) : Octets :=
  match operand with
  | .text text => Quoting.shown text
  | .assignment name key appends given =>
      let sign := if appends then "+=" else "="
      let place := name ++ (key.map fun key => s!"[{key}]").getD ""
      let entry (entry : Sh.Entry) : Octets :=
        (entry.key.map fun key => s!"[{key}]=").getD "" ++ Quoting.shown entry.value
      match given with
      | .one value => place ++ sign ++ (if value.isEmpty then "" else Quoting.shown value)
      | .list entries =>
          place ++ sign ++ "(" ++ String.intercalate " " (entries.map entry) ++ ")"

/-- Show what is about to be run, if that is wanted. -/
def trace
    (capture : Script -> Sh Octets)
    (text : Octets) : Sh Unit := do
  let state ← get
  if state.has 'x' && !state.tracing then
    modify ({ · with tracing := true })
    let prompt := Reader.prose .extended ((state.value? "PS4").getD "+ ")
    let start ← proseOf capture prompt
    modify ({ · with tracing := false })
    let first := start.toList.take 1
    let deep := (List.replicate state.traceDepth first).flatten
    let _ ← Sh.call (.write 2 (Octets.toBytes (String.ofList deep ++ start ++ text ++ "\n")))

/-- Words as the trace shows them. -/
def tracedWords (words : List Word) : Octets :=
  String.intercalate " " (words.map Rendering.word)

/-! ## Programs -/

/-- Why a program at a path cannot be run, and the status of that. -/
def runFault (path : Octets) (fault : Fault) : Sh (Octets × Nat) := do
  match fault with
  | .missing => pure (Fault.missing.text, 127)
  | .denied => do
      match ← Sh.call (.look path true) with
      | .ok sight =>
          if sight.kind == .entry .directory then pure (Fault.isDirectory.text, 126)
          else pure (fault.text, 126)
      | .error _ => pure (fault.text, 126)
  | fault => pure (fault.text, 126)

/-- Become a program; the complaint if this fails names a command, if one is given. -/
def become
    (starter : Starter)
    (path : Octets)
    (words : List Octets) : Sh α := do
  let state ← get
  for (number, text) in state.traps do
    if number != 0 && number ≤ Signal.greatest && !text.isEmpty then
      Sh.call (.dispose ⟨number⟩ .usual)
  for (_, saved) in state.kept.flatten do
    match saved with
    | some saved => do
        let _ ← Sh.call (.close saved)
    | none => pure ()
  let name := words.headD ""
  let environment := ("_", path) :: state.environment.filter (·.1 != "_")
  let fault ← Sh.act (starter path ⟨name, words.drop 1, environment⟩)
  let (text, status) ← runFault path fault
  Sh.failWith status .finish s!"{name}: {text}"

/-- Find a program and become it, for good. -/
def becomeNamed
    (starter : Starter)
    (words : List Octets) : Sh α := do
  let name := words.headD ""
  match ← searchProgram ((← get).value? "PATH") name with
  | .ok path => become starter path words
  | .error .missing => Sh.failWith 127 .finish s!"{name}: not found"
  | .error fault => do
      let (text, status) ← runFault name fault
      Sh.failWith status .finish s!"{name}: cannot execute: {text}"

/-! ## Scripts -/

/-- The path of a script that a name means. -/
def findScript (name : Octets) : Sh Octets := do
  if name.contains '/' then pure name
  else
    let directories := (((← get).value? "PATH").getD "").splitOn ":"
    let paths := directories.map fun directory => Programs.inDirectory directory name
    let found ← paths.findM? fun path => do
      match ← Sh.call (.look path true) with
      | .ok sight => pure (sight.kind matches .entry .file)
      | .error _ => pure false
    pure (found.getD name)

/-- The text of a script. -/
def readScript (path : Octets) : Sh Octets := do
  match ← Sh.call (.look path true) with
  | .ok sight =>
      if sight.kind == .entry .directory then refuse 1 s!"{path}: is a directory"
  | .error _ => pure ()
  match ← Sh.call (.open path .reading) with
  | .error fault => refuseBare 1 s!"{path}: {fault.text}"
  | .ok descriptor => do
      let read ← Sh.act (readAll descriptor)
      let _ ← Sh.call (.close descriptor)
      match read with
      | .ok bytes => pure (Octets.ofBytes bytes)
      | .error _ => pure ""

/-! ## Choices -/

/-- The width of a column of a menu. -/
def menuText (words : List Octets) : Octets :=
  let digits := (toString words.length).length
  let line (entry : Octets × Nat) : Octets :=
    let number := toString (entry.2 + 1)
    let blanks := String.ofList (List.replicate (digits - number.length) ' ')
    s!"{blanks}{number}) {entry.1}\n"
  String.join (words.zipIdx.map line)

/-- A duration in milliseconds, as it is told. -/
def durationText (brief : Bool) (milliseconds : Nat) : Octets :=
  let seconds := milliseconds / 1000
  let pad (width n : Nat) : Octets :=
    let digits := toString n
    String.ofList (List.replicate (width - digits.length) '0') ++ digits
  if brief then s!"{seconds}.{pad 2 (milliseconds % 1000 / 10)}"
  else s!"{seconds / 60}m{seconds % 60}.{pad 3 (milliseconds % 1000)}s"

/-- What is told of the time that a command has taken. -/
def timeText (brief : Bool) (milliseconds : Nat) : Octets :=
  let told := durationText brief milliseconds
  let none := durationText brief 0
  if brief then s!"real {told}\nuser {none}\nsys {none}\n"
  else s!"\nreal\t{told}\nuser\t{none}\nsys\t{none}\n"

end Extended
end Shell
end CameraFleet
