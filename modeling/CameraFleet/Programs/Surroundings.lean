import CameraFleet.Host.Standard
import CameraFleet.Programs.Print
import CameraFleet.Programs.Search

/-!
# Programs about surroundings

They show, or change for another program, what a process finds around it: its
environment, its directory, its account, its machine.
-/

namespace CameraFleet
namespace Programs

open Host

/-- Give a name of an environment a value. -/
def setVariable
    (environment : List (Octets × Octets))
    (name value : Octets) : List (Octets × Octets) :=
  if environment.any (·.1 == name) then
    environment.map fun entry => if entry.1 == name then (name, value) else entry
  else environment ++ [(name, value)]

/-- The name and the value of an assignment, if an operand is one. -/
def assignmentOf? (operand : Octets) : Option (Octets × Octets) :=
  let chars := operand.toList
  match chars.dropWhile (· != '=') with
  | _ :: value => some (String.ofList (chars.takeWhile (· != '=')), String.ofList value)
  | [] => none

/-- The text of an environment. -/
def environmentText
    (ending : Octets)
    (environment : List (Octets × Octets)) : Octets :=
  String.join (environment.map fun (name, value) => s!"{name}={value}{ending}")

/-- The environment after the names that options take away from it. -/
def removeNames (environment : List (Octets × Octets)) :
    List Given -> Except Octets (List (Octets × Octets))
  | [] => .ok environment
  | option :: rest =>
      match option.letter, option.argument with
      | 'u', some name =>
          if name.isEmpty || name.contains '=' then
            .error s!"cannot unset {Quoted.plain name}: {Fault.invalid.text}"
          else removeNames (environment.filter (·.1 != name)) rest
      | _, _ => removeNames environment rest

/-- Go to a directory that an option names, if one does; what is wrong with it, if anything. -/
def enterGiven (given : List Given) : Act (Option Octets) := do
  match argumentOf? given 'C' with
  | none => pure none
  | some path =>
      match ← Act.call (.enter path) with
      | .ok () => pure none
      | .error fault =>
          pure (some s!"cannot change directory to {Quoted.plain path}: {fault.text}")

/-- Show an environment, or start a program with one. -/
def env (starter : Starter) : Program :=
  withOptions
    { letters :=
        [('i', .nothing), ('0', .nothing), ('u', .something), ('C', .something), ('v', .nothing)]
      words :=
        [("ignore-environment", 'i', .nothing), ("null", '0', .nothing),
          ("unset", 'u', .something), ("chdir", 'C', .something), ("debug", 'v', .nothing)]
      permutes := false } 125 fun launch given operands => do
    let (isEmpty, operands) :=
      match operands with
      | "-" :: rest => (true, rest)
      | operands => (isGiven given 'i', operands)
    match removeNames (if isEmpty then [] else launch.environment) given with
    | .error reason => fail launch.name reason 125
    | .ok environment => do
        let assignments := (operands.takeWhile fun operand => (assignmentOf? operand).isSome)
        let command := operands.drop assignments.length
        let environment := (assignments.filterMap assignmentOf?).foldl
          (fun environment (name, value) => setVariable environment name value) environment
        match command with
        | [] =>
            if (argumentOf? given 'C').isSome then
              misuse launch.name "must specify command with --chdir (-C)" 125
            else
              let ending := if isGiven given '0' then "\x00" else "\n"
              printing launch.name (environmentText ending environment) 0
        | name :: args => do
            if isGiven given '0' then
              misuse launch.name "cannot specify --null (-0) with command" 125
            else
              match ← enterGiven given with
              | some reason => fail launch.name reason 125
              | none =>
                  startOr starter { name, args, environment } fun fault =>
                    s!"{launch.name}: {Quoted.plain name}: {fault.text}\n"

/-- Show values of the environment, or all of it. -/
def printenv : Program :=
  withOptions
    { letters := [('0', .nothing)], words := [("null", '0', .nothing)] } 2
    fun launch given operands => do
      let ending := if isGiven given '0' then "\x00" else "\n"
      if operands.isEmpty then
        printing launch.name (environmentText ending launch.environment) 0
      else
        let values := operands.map fun name => launch.environment.lookup name
        let text := String.join (values.filterMap fun value => value.map (· ++ ending))
        printing launch.name text (if values.all (·.isSome) then 0 else 1)

/-- Start a program that the loss of a terminal does not end. -/
def nohup (starter : Starter) : Program :=
  withOptions { permutes := false } 125 fun launch _ operands => do
    match operands with
    | [] => misuse launch.name "missing operand" 125
    | name :: args => do
        Act.call (.dispose .hangup .ignored)
        startOr starter { launch with name, args } fun fault =>
          s!"{launch.name}: failed to run command {Quoted.plain name}: {fault.text}\n"

/-- Start a program that is content with less of the machine, which makes no difference here. -/
def nice (starter : Starter) : Program :=
  withOptions
    { letters := ('n', .something) :: "123456789".toList.map fun digit => (digit, .perhaps)
      words := [("adjustment", 'n', .something)], permutes := false } 125
    fun launch given operands => do
      let wrong := (argumentOf? given 'n').filter fun text => (integer? text).isNone
      match wrong, operands with
      | some text, _ => fail launch.name s!"invalid adjustment {Quoted.plain text}" 125
      | none, [] =>
          if given.isEmpty then printing launch.name "0\n" 0
          else misuse launch.name "a command must be given with an adjustment" 125
      | none, name :: args =>
          startOr starter { launch with name, args } fun fault =>
            s!"{launch.name}: {Quoted.plain name}: {fault.text}\n"

/-- Show the directory of the process. -/
def pwd : Program :=
  withOptions
    { letters := [('L', .nothing), ('P', .nothing)]
      words := [("logical", 'L', .nothing), ("physical", 'P', .nothing)] } 1
    fun launch given operands => do
      if !operands.isEmpty then warn launch.name "ignoring non-option arguments"
      let physical := Path.text (← Act.call .here)
      let told := (launch.environment.lookup "PWD").getD ""
      let isRight ←
        if lastOf? given ['L', 'P'] == some 'L' && told.startsWith "/" then do
          match ← Act.call (.resolve told) with
          | .ok path => pure (path == physical)
          | .error _ => pure false
        else pure false
      printing launch.name ((if isRight then told else physical) ++ "\n") 0

/-- Show the account of the process. -/
def whoami : Program :=
  withOptions { } 1 fun launch _ operands => do
    match operands with
    | [] => printing launch.name "root\n" 0
    | operand :: _ => misuse launch.name s!"extra operand {Quoted.plain operand}" 1

/-- Whether there is an account. -/
def isAccount (name : Octets) : Bool :=
  (accounts.splitOn "\n").any fun line => line.startsWith (name ++ ":")

/-- Show the numbers and names of the account of the process. -/
def account : Program :=
  withOptions
    { letters :=
        [('u', .nothing), ('g', .nothing), ('G', .nothing), ('n', .nothing), ('r', .nothing),
          ('z', .nothing), ('a', .nothing)]
      words :=
        [("user", 'u', .nothing), ("group", 'g', .nothing), ("groups", 'G', .nothing),
          ("name", 'n', .nothing), ("real", 'r', .nothing), ("zero", 'z', .nothing)] } 1
    fun launch given operands => do
      let asked := given.filter fun option => ['u', 'g', 'G'].contains option.letter
      let letters := (asked.map (·.letter)).eraseDups
      match operands.find? fun operand => operand != "root" with
      | some operand => fail launch.name s!"{Quoted.plain operand}: no such user" 1
      | none =>
          if 1 < letters.length then
            fail launch.name "cannot print \"only\" of more than one choice" 1
          else if letters.isEmpty then
            if isGiven given 'n' || isGiven given 'r' then
              fail launch.name "cannot print only names or real IDs in default format" 1
            else printing launch.name "uid=0(root) gid=0(root) groups=0(root)\n" 0
          else printing launch.name (if isGiven given 'n' then "root\n" else "0\n") 0

/-- Show what the machine is. -/
def uname : Program :=
  withOptions
    { letters :=
        [('s', .nothing), ('m', .nothing), ('p', .nothing), ('i', .nothing), ('o', .nothing)]
      words :=
        [("kernel-name", 's', .nothing), ("machine", 'm', .nothing), ("processor", 'p', .nothing),
          ("hardware-platform", 'i', .nothing), ("operating-system", 'o', .nothing)] } 1
    fun launch given operands => do
      match operands with
      | operand :: _ => misuse launch.name s!"extra operand {Quoted.plain operand}" 1
      | [] =>
          let parts :=
            [('s', "Linux"), ('m', "x86_64"), ('p', "x86_64"), ('i', "x86_64"), ('o', "GNU/Linux")]
          let shown := parts.filter fun part =>
            if given.isEmpty then part.1 == 's' else isGiven given part.1
          printing launch.name (String.intercalate " " (shown.map (·.2)) ++ "\n") 0

end Programs
end CameraFleet
