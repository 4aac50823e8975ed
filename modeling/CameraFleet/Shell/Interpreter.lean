import CameraFleet.Shell.Commands
import CameraFleet.Shell.Extended.Running
import CameraFleet.Shell.Rewiring

/-!
# The interpreter

What a script does. A shell runs a command by itself, in a copy of itself, or by
becoming a program. Between commands it sees to the signals that have come.
-/

namespace CameraFleet
namespace Shell

open Host
open Programs

/-! ## Loops -/

/-- What a loop does after one of its commands. -/
inductive Pass
  /-- It goes on as usual. -/
  | usual
  /-- It goes on with its next turn. -/
  | again
  /-- It is left. -/
  | left
  /-- It is left with the function around it; its status may be given. -/
  | returned (given : Bool)
  deriving Repr, DecidableEq

/-- See what a loop has to do, which may concern loops around it too. -/
def passLoop : Sh Pass := do
  match (← get).skip with
  | none => pure .usual
  | some (.returning given) => pure (.returned given)
  | some (.leaving loops) => do
      modify ({ · with skip := if loops ≤ 1 then none else some (.leaving (loops - 1)) })
      pure .left
  | some (.continuing loops) =>
      if loops ≤ 1 then
        modify ({ · with skip := none })
        pure .again
      else
        modify ({ · with skip := some (.continuing (loops - 1)) })
        pure .left

/-- Do something within a loop. -/
def inLoop (body : Sh α) : Sh α := do
  modify fun state => { state with loops := state.loops + 1 }
  let value ← body
  modify fun state => { state with loops := state.loops - 1 }
  pure value

/-! ## Words of a command -/

/-- Expand words until there is something, and what there is then, with the words left. -/
def fill
    (capture : Script -> Sh Octets)
    (sofar : List Octets) : List Word -> Sh (List Octets × List Word)
  | [] => pure (sofar, [])
  | word :: rest => do
      let more ← argumentsOf capture word
      if more.isEmpty then fill capture sofar rest else pure (sofar ++ more, rest)

/-- Expand words until there are so many, if they suffice. -/
def fillTo
    (capture : Script -> Sh Octets)
    (count : Nat)
    (words : List Octets)
    (rest : List Word) : Sh (List Octets × List Word) :=
  if words.length < count then fill capture words rest else pure (words, rest)

/-- What there is to be run. -/
structure Target where
  /-- The words that have been expanded. -/
  words : List Octets
  /-- The words that have not. -/
  rest : List Word
  /-- How many of the words only say how a command is looked up. -/
  taken : Nat := 0
  /-- Where programs are looked for, if that has been said. -/
  directories : Option Octets := none
  /-- Whether the first command of the shell that was met is special, if there was one. -/
  special : Option Bool := none
  /-- What is run. -/
  meaning : Meaning := .program

namespace Target

/-- The name of the command. -/
def name? (target : Target) : Option Octets :=
  target.words[target.taken]?

/-- Whether assignments before the command end with it. -/
def isScoped (target : Target) : Bool :=
  match target.name?, target.special with
  | none, _ | _, some true => false
  | _, _ => true

/-- Whether it is a command of the shell of some names. -/
def isCommand (target : Target) (names : List Octets) : Bool :=
  match target.meaning, target.name? with
  | .command _, some name => names.contains name
  | _, _ => false

end Target

/-- What follows the command that runs commands and its options, if they leave something to run. -/
def afterPrefix
    (capture : Script -> Sh Octets) :
    Nat -> Target -> Nat -> Option Octets -> Sh (Target × Option (Nat × Option Octets))
  | 0, target, _, _ => pure (target, none)
  | fuel + 1, target, place, directories => do
      let (words, rest) ← fillTo capture (place + 1) target.words target.rest
      let target := { target with words, rest }
      match (words[place]?).map String.toList with
      | none => pure (target, none)
      | some ['-', '-'] => do
          let (words, rest) ← fillTo capture (place + 2) words rest
          let target := { target with words, rest }
          if words.length < place + 2 then pure (target, none)
          else pure (target, some (place + 1, directories))
      | some ('-' :: letter :: letters) =>
          if (letter :: letters).all (· == 'p') then
            afterPrefix capture fuel target (place + 1) (some usualDirectories)
          else pure (target, none)
      | some _ => pure (target, some (place, directories))

/-- Find out what is to be run; the first number bounds the steps. -/
def findTarget
    (capture : Script -> Sh Octets) :
    Nat -> Bool -> Target -> Sh Target
  | 0, _, target => pure target
  | fuel + 1, functions, target => do
      match target.name? with
      | none => pure target
      | some name => do
          let meaning := (← get).meaning functions name
          match meaning with
          | .command special => do
              let target := { target with meaning, special := target.special.or (some special) }
              if name != "command" then pure target
              else
                match ← afterPrefix capture wordFuel target (target.taken + 1) target.directories
                  with
                | (target, none) => pure target
                | (target, some (taken, directories)) =>
                    findTarget capture fuel false { target with taken, directories }
          | meaning => pure { target with meaning }

/-- Expand a word after the first ones, which may be an assignment. -/
def expandLater
    (capture : Script -> Sh Octets)
    (assigns : Bool)
    (word : Word) : Sh (List Octets) := do
  match if assigns then assignment? word else none with
  | some (name, value) => pure [s!"{name}={← valueOf capture value}"]
  | none => argumentsOf capture word

/-- Expand all words of a command. -/
def expandTarget
    (capture : Script -> Sh Octets)
    (words : List Word) : Sh Target := do
  let (first, rest) ← fill capture [] words
  let target ← findTarget capture (words.length + first.length + 1) true { words := first, rest }
  let assigns := target.isCommand assigningCommands
  let others ← target.rest.mapM (expandLater capture assigns)
  pure { target with words := target.words ++ others.flatten, rest := [] }

/-- Carry out an assignment before a command; the result is how it is shown. -/
def assignBefore
    (capture : Script -> Sh Octets)
    (isScoped exported : Bool)
    (assignment : Word) : Sh Octets := do
  let (name, word) :=
    match destination? assignment with
    | some (destination, word) => (destination.name, word)
    | none => ("", [])
  let value ← valueOf capture word
  if isScoped then Sh.shelter name
  Sh.assign name value
  if isScoped || exported then Sh.publish name
  pure s!"{name}={value}"

/-- Show a command before it runs, on the error output that it had before. -/
def showCommand
    (capture : Script -> Sh Octets)
    (own : Bool)
    (shown : List Octets) : Sh Unit := do
  let state ← get
  if state.has 'x' && !state.tracing then
    modify ({ · with tracing := true })
    let start ← proseOf capture (Reader.prose .plain ((state.value? "PS4").getD ""))
    modify ({ · with tracing := false })
    let kept := if own then (state.kept.head?.bind (·.lookup 2)).bind id else none
    let text := start ++ String.intercalate " " shown ++ "\n"
    let _ ← Sh.call (.write (kept.getD 2) (Octets.toBytes text))

/-- Undo redirections and restore parameters, down to some numbers of groups. -/
def unwind (groups frames : Nat) : Sh Unit := do
  let state ← get
  for _ in List.range (state.kept.length - groups) do
    endKeeping false
  for _ in List.range (state.locals.length - frames) do
    Sh.restoreLocals

/-- The status of a shell that cannot run a program. -/
def runStatus : Fault -> Nat
  | .missing | .notDirectory | .endlessLinks | .nameTooLong => 127
  | _ => 126

/-- Become a program. -/
def become
    (starter : Starter)
    (path : Octets)
    (words : List Octets) : Sh α := do
  let state ← get
  for (number, text) in state.traps do
    if number != 0 && !text.isEmpty then Sh.call (.dispose ⟨number⟩ .usual)
  for (_, saved) in state.kept.flatten do
    match saved with
    | some saved => do
        let _ ← Sh.call (.close saved)
    | none => pure ()
  let name := words.headD ""
  let fault ← Sh.act (starter path ⟨name, words.drop 1, state.environment⟩)
  Sh.failWith (runStatus fault) .finish s!"{name}: {runFaultText fault}"

/-- Find a program and become it. -/
def becomeNamed
    (starter : Starter)
    (words : List Octets) : Sh α := do
  let name := words.headD ""
  match ← searchProgram ((← get).value? "PATH") name with
  | .ok path => become starter path words
  | .error fault => Sh.failWith (runStatus fault) .finish s!"{name}: {runFaultText fault}"

/-- End a copy of the shell at once, after it has done something. -/
def endCopy (body : Sh Unit) : Sh α := do
  let _ ← Sh.attempt body
  Sh.act (Act.exit (← get).status)

/-- Run a program, in a copy of the shell unless the shell ends with it. -/
def runProgram
    (starter : Starter)
    (manner : Manner)
    (directories : Option Octets)
    (words : List Octets) : Sh Nat := do
  let state ← get
  let name := words.headD ""
  match ← findProgram (directories.or (state.value? "PATH")) name with
  | .error fault => do
      Sh.warn s!"{name}: {runFaultText fault}"
      pure 127
  | .ok path =>
      if manner.last && !state.hasTraps then become starter path words
      else
        let job ← beginJob
        if ← copyShell job false then endCopy (become starter path words)
        else finishJob job

/-- Keep a status; the result is the status and whether it can end the shell. -/
def conclusion (status : Nat) (checks : Bool) : Sh (Nat × Bool) := do
  modify ({ · with status })
  pure (status, checks)

/-- Whether a script is empty. -/
def Script.isNothing : Script -> Bool
  | .nothing => true
  | _ => false

/-- A branch of a choice by pattern. -/
abbrev Branch := List Word × Script × Onward

/-- The branches from the first one on that has a pattern which matches a text. -/
def chooseBranch
    (capture : Script -> Sh Octets)
    (subject : Octets) : List Branch -> Sh (List Branch)
  | [] => pure []
  | (patterns, branch) :: rest => do
      if ← patterns.anyM fun word => do
        pure (Pattern.isMatch (← patternOf capture word) subject.toList)
      then pure ((patterns, branch) :: rest)
      else chooseBranch capture subject rest

/-- Come back to the state in which a shell ends, however it came to that. -/
def comeBack (jump : Option Jump) : Sh Unit := do
  let state ← get
  match state.saved with
  | some status =>
      if jump == some .exit || state.skip == some (.returning false) then
        modify ({ · with status })
  | none => pure ()
  modify ({ · with saved := none, skip := none, loops := 0, tracing := false })
  unwind 0 (← get).locals.length

/-- The script that a name means for the command that reads scripts. -/
def findScript (name : Octets) : Sh Octets := do
  if name.contains '/' then pure name
  else
    let directories := (((← get).value? "PATH").getD "").splitOn ":"
    let paths := directories.map fun directory => Programs.inDirectory directory name
    let found ← paths.findM? fun path => do
      match ← Sh.call (.look path true) with
      | .ok sight =>
          match sight.kind with
          | .entry .file => pure true
          | _ => pure false
      | .error _ => pure false
    match found with
    | some path => pure path
    | none => Sh.fail s!"{name}: not found"

/-- The text of a script. -/
def readScript (path : Octets) : Sh Octets := do
  match ← Sh.call (.open path .reading) with
  | .error fault => Sh.fail s!"cannot open {path}: {readFaultText fault}"
  | .ok descriptor => do
      let read ← Sh.act (readAll descriptor)
      let _ ← Sh.call (.close descriptor)
      match read with
      | .ok bytes => pure (Octets.ofBytes bytes)
      | .error _ => pure ""

/-- The output of a script as a text: without zero bytes, and without line breaks at the end. -/
def outputText (bytes : ByteArray) : Octets :=
  let chars := (Octets.ofBytes bytes).toList.filter (· != '\x00')
  String.ofList (chars.reverse.dropWhile (· == '\n')).reverse

/-- The place in the shell to which it comes back after it has broken off a command. -/
structure Landing where
  /-- The number of groups of redirections. -/
  groups : Nat
  /-- The number of functions whose parameters are kept. -/
  frames : Nat
  /-- The number of loops around. -/
  loops : Nat
  /-- The descriptors of commands that are used as files. -/
  channels : List Nat

/-- The place in the shell where it is. -/
def landing : Sh Landing := do
  let state ← get
  pure
    { groups := state.kept.length, frames := state.locals.length, loops := state.loops
      channels := state.channels }

/-- Come back to a place in the shell. -/
def land (landing : Landing) : Sh Unit := do
  unwind landing.groups landing.frames
  for channel in (← get).channels do
    if !landing.channels.contains channel then
      let _ ← Sh.call (.close channel)
  modify ({ · with loops := landing.loops, channels := landing.channels })

/-- The statuses of the processes of a job that is over and done with. -/
def finishStages (number : Nat) : Sh (List Nat) := do
  let _ ← awaitJob number .full Programs.manyTurns
  let processes := (((← get).job? number).map (·.processes)).getD []
  modify (·.dropJob number)
  pure (processes.map fun (_, ending) => (ending.map Ending.status).getD 0)

/-- The status of commands that belong together, of which any failure may count. -/
def stagesStatus (state : State) (statuses : List Nat) : Nat :=
  let last := statuses.getLastD 0
  if state.settings.contains "pipefail" then
    ((statuses.filter (· != 0)).getLast?).getD 0
  else last

/-- The descriptor of the first command that is used as a file. -/
def firstChannel : Nat := 63

/-- Note the status of a command that stands alone. -/
def noteStage (status : Nat) : Sh Unit :=
  modify fun state =>
    if state.language == .extended then { state with stages := [status] } else state

/-- The file that a script of nothing but a redirection reads. -/
def readFile? : Script -> Option Word
  | .simple _ [] [] [.file 0 .input name] => some name
  | _ => none

/-- Carry out something and leave the output of the command complete. -/
def concludeCommand
    (special : Bool)
    (before : Option Octets)
    (result : Except Jump Nat) : Sh Nat := do
  match result with
  | .ok status => do
      Sh.flush
      let broken := (← get).unwritten
      let name := (← get).command.getD ""
      if broken then Sh.warn s!"{name}: I/O error"
      let status := if broken then status ||| 1 else status
      modify ({ · with status, command := before, unwritten := false })
      pure status
  | .error jump => do
      modify ({ · with command := before, unwritten := false, written := .empty })
      if jump == .mistake && !special then pure (← get).status else Sh.jump jump

set_option maxRecDepth 4000

mutual

/-- Run a script; the result is its status. -/
def evaluate (starter : Starter) : Nat -> Manner -> Script -> Sh Nat
  | 0, _, _ => pure 0
  | fuel + 1, manner, script => do
      handleTraps starter fuel
      if (← get).has 'n' then
        if manner.last then Sh.jump .exit else pure 0
      else
        let (status, checks) ← evaluateKind starter fuel manner script
        if checks && status != 0 && !manner.tested then runFailureTrap starter fuel
        let state ← get
        if checks && state.has 'e' && !manner.tested && status != 0 then Sh.jump .exit
        else
          if !state.traps.isEmpty then handleTraps starter fuel
          if manner.last then Sh.jump .exit else pure status

/-- Run a script by its kind; the result is its status and whether that can end the shell. -/
def evaluateKind (starter : Starter) : Nat -> Manner -> Script -> Sh (Nat × Bool)
  | 0, _, _ => pure (0, false)
  | _ + 1, _, .nothing => pure (0, false)
  | fuel + 1, _, .negate body => do
      let status ← evaluate starter fuel .test body
      conclusion (if status = 0 then 1 else 0) false
  | fuel + 1, manner, .redirected line body redirections => do
      modify ({ · with line })
      let (status, failed) ← runRedirected starter fuel manner body redirections
      conclusion status failed
  | fuel + 1, manner, .simple line assignments words redirections => do
      let status ←
        match (← get).language with
        | .plain => simple starter fuel manner line assignments words redirections
        | .extended => fullSimple starter fuel manner line assignments words redirections
      noteStage status
      conclusion status true
  | fuel + 1, manner, .pipeline commands aside => do
      let job ← beginJob
      startStages starter fuel { manner with last := true } job aside none commands
      if aside then conclusion 0 true
      else
        match (← get).language with
        | .plain => do conclusion (← finishJob job) true
        | .extended => do
            let stages ← finishStages job
            modify ({ · with stages })
            conclusion (stagesStatus (← get) stages) true
  | fuel + 1, _, .aside body redirections => do
      runAside starter fuel body redirections
      conclusion 0 true
  | fuel + 1, manner, .apart line body redirections => do
      modify ({ · with line })
      let status ← runApart starter fuel manner body redirections
      noteStage status
      conclusion status true
  | fuel + 1, manner, .sequence first second => do
      let status ← evaluate starter fuel manner.inner first
      if (← get).skip.isSome then pure (status, false)
      else conclusion (← evaluate starter fuel manner second) false
  | fuel + 1, manner, .both first second => do
      let status ← evaluate starter fuel .test first
      if status != 0 || (← get).skip.isSome then pure (status, false)
      else conclusion (← evaluate starter fuel manner second) false
  | fuel + 1, manner, .either first second => do
      let status ← evaluate starter fuel .test first
      if status = 0 || (← get).skip.isSome then pure (status, false)
      else conclusion (← evaluate starter fuel manner second) false
  | fuel + 1, manner, .choose test success failure => do
      let status ← evaluate starter fuel .test test
      if (← get).skip.isSome then pure (status, false)
      else if status = 0 then conclusion (← evaluate starter fuel manner success) false
      else if failure.isNothing then conclusion 0 false
      else conclusion (← evaluate starter fuel manner failure) false
  | fuel + 1, manner, .loop stops test body => do
      conclusion (← inLoop (runLoop starter fuel manner.inner stops test body 0)) false
  | fuel + 1, manner, .each line name words body => do
      modify ({ · with line })
      let values ← words.mapM (argumentsOf (capture starter fuel))
      let head := s!"for {name} in {Extended.tracedWords words}"
      if (← get).language == .extended && !isName name then
        Sh.warnBare s!"\x60{name}': not a valid identifier"
        conclusion 1 false
      else
        let status ←
          inLoop (runEach starter fuel manner.inner head name body values.flatten 0)
        conclusion status false
  | fuel + 1, manner, .select line subject branches => do
      modify ({ · with line })
      let capture := capture starter fuel
      if (← get).language == .extended then
        Extended.trace capture s!"case {Rendering.word subject} in"
      let text ← nameOf capture subject
      let status ← runBranches starter fuel manner text (← chooseBranch capture text branches) 0
      conclusion status false
  | _ + 1, _, .define line name body => do
      modify fun state =>
        let source := state.source.getD (if state.fromArgument then "environment" else state.name)
        { state with
          functions := (name, { line, body, source }) ::
            state.functions.filter (·.1 != name) }
      conclusion 0 false
  | fuel + 1, _, .claim line proposition => do
      modify ({ · with line, command := none })
      let capture := capture starter fuel
      let result ← Sh.attempt do
        modify ({ · with command := some "[[" })
        Trial.claim capture (Extended.trace capture) proposition
      modify ({ · with command := none })
      let status ←
        match result with
        | .ok status => pure status
        | .error .mistake => do pure (← get).status
        | .error jump => Sh.jump jump
      noteStage status
      conclusion status true
  | fuel + 1, _, .calculate line expression => do
      modify ({ · with line })
      let capture := capture starter fuel
      let text ← proseOf capture expression
      Extended.trace capture s!"(( {text} ))"
      let status ← do
        match ← Sh.attempt (Sh.tryCalculate text) with
        | .ok (.ok value) => pure (if value = 0 then 1 else 0)
        | .ok (.error problem) => do
            Sh.warnBare s!"((: {problem}"
            pure 1
        | .error .mistake => pure 1
        | .error jump => Sh.jump jump
      noteStage status
      conclusion status true
  | fuel + 1, manner, .count line start test step body => do
      modify ({ · with line })
      let status ← do
        match ← calculation starter fuel start with
        | some _ => inLoop (runCount starter fuel manner.inner test step body 0)
        | none => pure 1
      conclusion status false
  | fuel + 1, manner, .pick line name words body => do
      modify ({ · with line })
      let values ← words.mapM (argumentsOf (capture starter fuel))
      let status ← inLoop (runPick starter fuel manner.inner name body values.flatten true 0)
      conclusion status false
  | fuel + 1, manner, .timed brief body => do
      let start ← Sh.call .clock
      let status ← if body.isNothing then pure 0 else evaluate starter fuel manner.inner body
      let stop ← Sh.call .clock
      Sh.act (Act.complain (Extended.timeText brief (stop - start)))
      conclusion status true
  | fuel + 1, manner, .channel _ body => do
      conclusion (← evaluate starter fuel manner body) false
  | _ + 1, _, .faulty error => do
      let state ← get
      let start := s!"{state.source.getD state.name}: command substitution: line {error.line}: "
      Sh.act (Act.complain (String.join (error.texts.map fun text => s!"{start}{text}\n")))
      conclusion error.status false

/-- The value of an expression of a loop that counts; none if it is wrong. -/
def calculation (starter : Starter) : Nat -> Word -> Sh (Option Int)
  | 0, _ => pure none
  | fuel + 1, expression => do
      let capture := capture starter fuel
      let text ← proseOf capture expression
      if text.toList.all Calculation.isBlank then pure (some 1)
      else
        Extended.trace capture s!"(({text}))"
        match ← Sh.tryCalculate text with
        | .ok value => pure (some value)
        | .error problem => do
            Sh.warnBare s!"((: {problem}"
            pure none

/-- Run a loop that counts; the number is its status so far. -/
def runCount (starter : Starter) : Nat -> Manner -> Word -> Word -> Script -> Nat -> Sh Nat
  | 0, _, _, _, _, status => pure status
  | fuel + 1, manner, test, step, body, status => do
      match ← calculation starter fuel test with
      | none => pure 1
      | some 0 => pure status
      | some _ => do
          let status ← evaluate starter fuel manner body
          match ← passLoop with
          | .usual | .again => do
              match ← calculation starter fuel step with
              | none => pure 1
              | some _ => runCount starter fuel manner test step body status
          | _ => pure status

/-- Let somebody pick words until there is an end; the number is the status so far. -/
def runPick (starter : Starter) :
    Nat -> Manner -> Octets -> Script -> List Octets -> Bool -> Nat -> Sh Nat
  | 0, _, _, _, _, _, status => pure status
  | fuel + 1, manner, name, body, values, shows, status => do
      if values.isEmpty then pure status
      else
        let prompt := ((← get).value? "PS3").getD "#? "
        Sh.act (Act.complain ((if shows then Extended.menuText values else "") ++ prompt))
        let (cells, ended) ← Extended.readLine {} manyTurns false []
        let text := cellText cells.reverse
        if cells.isEmpty && !ended then
          Sh.act (Act.complain "\n")
          pure 1
        else if text.isEmpty then runPick starter fuel manner name body values true status
        else
          Sh.store "REPLY" none false text
          let place := (natural? text).getD 0
          let value := if place = 0 then "" else values.getD (place - 1) ""
          Sh.store name none false value
          let status ← evaluate starter fuel manner body
          match ← passLoop with
          | .usual | .again => runPick starter fuel manner name body values false status
          | _ => pure status

/-- Run branches of a choice, of which the first has been chosen; the number is the status so far. -/
def runBranches (starter : Starter) :
    Nat -> Manner -> Octets -> List Branch -> Nat -> Sh Nat
  | 0, _, _, _, status => pure status
  | _ + 1, _, _, [], status => pure status
  | fuel + 1, manner, text, (_, body, onward) :: rest, _ => do
      let isLast := onward == .finish || rest.isEmpty
      let status ←
        if body.isNothing then pure 0
        else evaluate starter fuel (if isLast then manner else manner.inner) body
      if (← get).skip.isSome then pure status
      else
        match onward with
        | .finish => pure status
        | .next => runBranches starter fuel manner text rest status
        | .search => do
            let chosen ← chooseBranch (capture starter fuel) text rest
            runBranches starter fuel manner text chosen status

/-- Run a command with redirections; its status and whether the redirections have failed. -/
def runRedirected (starter : Starter) :
    Nat -> Manner -> Script -> List Redirection -> Sh (Nat × Bool)
  | 0, _, _, _ => pure (0, false)
  | fuel + 1, manner, body, redirections => do
      let capture := capture starter fuel
      let wires ← wiresOf capture redirections
      beginKeeping
      let failed ← connectSafely capture wires
      let status ←
        if failed = 0 then evaluate starter fuel { tested := manner.tested } body
        else pure failed
      endKeeping false
      pure (status, failed != 0)

/-- Run a command aside. -/
def runAside (starter : Starter) : Nat -> Script -> List Redirection -> Sh Unit
  | 0, _, _ => pure ()
  | fuel + 1, body, redirections => do
      let capture := capture starter fuel
      let wires ← wiresOf capture redirections
      let job ← beginJob
      if ← copyShell job true then
        runCopy starter fuel do
          connectForGood capture wires
          let _ ← evaluate starter fuel { last := true } body

/-- Run a command in a copy of the shell, unless the shell ends with it. -/
def runApart (starter : Starter) : Nat -> Manner -> Script -> List Redirection -> Sh Nat
  | 0, _, _, _ => pure 0
  | fuel + 1, manner, body, redirections => do
      let capture := capture starter fuel
      let wires ← wiresOf capture redirections
      let run : Sh Unit := do
        connectForGood capture wires
        let _ ← evaluate starter fuel { manner with last := true } body
      if manner.last && !(← get).hasTraps then
        run
        pure 0
      else
        let job ← beginJob
        if ← copyShell job false then runCopy starter fuel run else finishJob job

/-- Run a loop; the number is its status so far. -/
def runLoop (starter : Starter) : Nat -> Manner -> Bool -> Script -> Script -> Nat -> Sh Nat
  | 0, _, _, _, _, status => pure status
  | fuel + 1, manner, stops, test, body, status => do
      let tested ← evaluate starter fuel .test test
      match ← passLoop with
      | .usual =>
          if (tested = 0) == stops then pure status
          else
            let status ← evaluate starter fuel manner body
            match ← passLoop with
            | .usual | .again => runLoop starter fuel manner stops test body status
            | _ => pure status
      | .again => runLoop starter fuel manner stops test body status
      | .returned true => pure tested
      | _ => pure status

/-- Run a command for each of some values of a parameter; the last number is the status so far. -/
def runEach (starter : Starter) :
    Nat -> Manner -> Octets -> Octets -> Script -> List Octets -> Nat -> Sh Nat
  | 0, _, _, _, _, _, status => pure status
  | _ + 1, _, _, _, _, [], status => pure status
  | fuel + 1, manner, head, name, body, value :: rest, _ => do
      let isSet ←
        match (← get).language with
        | .plain => do
            Sh.assign name value
            pure true
        | .extended => do
            Extended.trace (capture starter fuel) head
            match ← Sh.attempt (Sh.store name none false value) with
            | .ok () => pure true
            | .error .mistake => pure false
            | .error jump => Sh.jump jump
      if !isSet then pure 1
      else
        let status ← evaluate starter fuel manner body
        match ← passLoop with
        | .usual | .again => runEach starter fuel manner head name body rest status
        | _ => pure status

/-- Start commands of which each reads what the one before it writes. -/
def startStages (starter : Starter) :
    Nat -> Manner -> Nat -> Bool -> Option Nat -> List Script -> Sh Unit
  | 0, _, _, _, _, _ => pure ()
  | _ + 1, _, _, _, _, [] => pure ()
  | fuel + 1, manner, job, aside, input, command :: rest => do
      let pipe ← if rest.isEmpty then pure none else some <$> Sh.call .pipe
      if ← copyShell job aside then
        runCopy starter fuel do
          match pipe with
          | some (source, _) => do
              let _ ← Sh.call (.close source)
          | none => pure ()
          match input with
          | some source =>
              if source != 0 then
                let _ ← Sh.call (.assign source 0)
                let _ ← Sh.call (.close source)
          | none => pure ()
          match pipe with
          | some (_, sink) =>
              if 1 < sink then
                let _ ← Sh.call (.assign sink 1)
                let _ ← Sh.call (.close sink)
          | none => pure ()
          let _ ← evaluate starter fuel manner command
      else
        match input with
        | some source => do
            let _ ← Sh.call (.close source)
        | none => pure ()
        match pipe with
        | some (source, sink) => do
            let _ ← Sh.call (.close sink)
            startStages starter fuel manner job aside (some source) rest
        | none => pure ()

/-- Run a command that has no commands as parts. -/
def simple (starter : Starter) :
    Nat -> Manner -> Nat -> List Word -> List Word -> List Redirection -> Sh Nat
  | 0, _, _, _, _, _ => pure 0
  | fuel + 1, manner, line, assignments, words, redirections => do
      modify ({ · with line, outputStatus := 0 })
      let capture := capture starter fuel
      let target ← expandTarget capture words
      let groups := (← get).kept.length
      let frames := (← get).locals.length
      let isRewired := !redirections.isEmpty
      let lasts := target.isCommand ["exec"]
      if target.isScoped then
        modify fun state => { state with locals := [] :: state.locals }
      let wires ← wiresOf capture redirections
      if isRewired then beginKeeping
      let failed ← connectSafely capture wires
      let status ←
        if failed != 0 then
          if target.special == some true then Sh.jump .mistake else pure failed
        else do
          let exported := lasts && target.taken + 1 < target.words.length
          let assigned ← assignments.mapM (assignBefore capture target.isScoped exported)
          showCommand capture isRewired (assigned ++ target.words)
          carryOut starter fuel manner target
      if isRewired && groups < (← get).kept.length then endKeeping lasts
      unwind groups frames
      pure status

/-- Run a function, a command of the shell, or a program. -/
def carryOut (starter : Starter) : Nat -> Manner -> Target -> Sh Nat
  | 0, _, _ => pure 0
  | fuel + 1, manner, target => do
      match target.words.drop target.taken, target.meaning with
      | [], _ => do pure (← get).outputStatus
      | name :: args, .function function => callFunction starter fuel manner name function args
      | name :: args, .command _ => do
          let before := (← get).command
          modify ({ · with command := some name })
          let result ← Sh.attempt (runCommand starter fuel manner name args)
          concludeCommand (target.special == some true) before result
      | words, .program => runProgram starter manner target.directories words

/-- Run a function with some arguments. -/
def callFunction (starter : Starter) :
    Nat -> Manner -> Octets -> Function -> List Octets -> Sh Nat
  | 0, _, _, _, _ => pure 0
  | fuel + 1, manner, name, function, args => do
      let before ← get
      let running : Running := { name, line := before.line, source := before.source }
      let isExtended := before.language == .extended
      set { before with
        locals := if isExtended then [] :: before.locals else before.locals
        args, loops := 0, depth := before.depth + 1, optionNext := 1, optionPlace := none
        running := running :: before.running
        source := if isExtended then some function.source else none }
      let result ← Sh.attempt (evaluate starter fuel { tested := manner.tested } function.body)
      if isExtended then unwind before.kept.length before.locals.length
      modify fun state =>
        let skip :=
          match state.skip with
          | some (.returning _) => none
          | skip => skip
        { state with
          args := before.args, loops := before.loops, depth := before.depth
          optionNext := before.optionNext, optionPlace := before.optionPlace, skip
          running := before.running, source := before.source }
      match result with
      | .ok _ => do
          runEvent starter fuel Extended.returnTrap
          pure (← get).status
      | .error jump => Sh.jump jump

/-- Run what is set for an event; the status stays as it is. -/
def runEvent (starter : Starter) : Nat -> Nat -> Sh Unit
  | 0, _ => pure ()
  | fuel + 1, number => do
      let state ← get
      match state.traps.lookup number with
      | none | some "" => pure ()
      | some text => do
          set { state with traps := state.traps.filter (·.1 != number) }
          let _ ← runText starter fuel {} text
          modify fun after =>
            let changed := (after.traps.lookup number).isSome
            { after with
              status := state.status, line := state.line
              traps := if changed then after.traps else (number, text) :: after.traps }

/-- Run what is set for commands that fail; functions do without it, unless an option is set. -/
def runFailureTrap (starter : Starter) : Nat -> Sh Unit
  | 0 => pure ()
  | fuel + 1 => do
      let state ← get
      if state.language == .extended && (state.running.isEmpty || state.has 'E') then
        runEvent starter fuel Extended.failureTrap

/-- Run a command of the extended language that has no commands as parts. -/
def fullSimple (starter : Starter) :
    Nat -> Manner -> Nat -> List Word -> List Word -> List Redirection -> Sh Nat
  | 0, _, _, _, _, _ => pure 0
  | fuel + 1, manner, line, assignments, words, redirections => do
      modify ({ · with line, outputStatus := 0, command := none })
      runEvent starter fuel Extended.commandTrap
      let capture := capture starter fuel
      let landing ← landing
      let operands ← Extended.operandsOf capture words
      let connected : Sh Nat := do
        match ← Sh.attempt (wiresOf capture redirections) with
        | .ok wires => do
            if !redirections.isEmpty then beginKeeping
            connectSafely capture wires
        | .error .mistake => pure 1
        | .error jump => Sh.jump jump
      match operands with
      | [] => do
          let failed ← connected
          let status ←
            if failed != 0 then pure failed
            else do
              assignAll starter fuel assignments
              pure (← get).outputStatus
          land landing
          pure status
      | first :: rest => do
          let name := first.shown
          let assigned ← assignments.mapM (Extended.operandsOfWord capture)
          if !assignments.isEmpty && (Extended.declaring? name).isNone then
            modify fun state => { state with locals := [] :: state.locals }
          for operand in assigned.flatten do
            Extended.trace capture (Extended.tracedOperand operand)
          let operands := first :: Extended.operandsFor name rest
          Extended.trace capture
            (String.intercalate " " (operands.map Extended.tracedOperand))
          let failed ← connected
          let status ←
            if failed != 0 then pure failed
            else do
              for operand in assigned.flatten do
                Sh.shelter (Extended.assignedName operand)
                match ← Sh.attempt (Extended.assign operand) with
                | .ok () => Sh.publish (Extended.assignedName operand)
                | .error .mistake => pure ()
                | .error jump => Sh.jump jump
              runOperands starter fuel manner true operands
          let lasts := name == "exec" && !redirections.isEmpty && failed = 0
          if lasts && landing.groups < (← get).kept.length then endKeeping true
          land landing
          let last := (operands.getLast?.map Extended.Operand.shown).getD ""
          modify (·.bind "_" { value := some last })
          pure status

/-- Carry out assignments that stand alone; a wrong one breaks off the whole command. -/
def assignAll (starter : Starter) : Nat -> List Word -> Sh Unit
  | 0, _ => pure ()
  | _ + 1, [] => pure ()
  | fuel + 1, word :: rest => do
      let capture := capture starter fuel
      for operand in ← Extended.operandsOfWord capture word do
        Extended.trace capture (Extended.tracedOperand operand)
        match ← Sh.attempt (Extended.assign operand) with
        | .ok () => pure ()
        | .error .mistake => do
            modify ({ · with status := 1 })
            Sh.jump .discard
        | .error jump => Sh.jump jump
      assignAll starter fuel rest

/-- Run a function, a command of the extended shell, or a program; functions may be left out. -/
def runOperands (starter : Starter) :
    Nat -> Manner -> Bool -> List Extended.Operand -> Sh Nat
  | 0, _, _, _ => pure 0
  | _ + 1, _, _, [] => pure 0
  | fuel + 1, manner, functions, first :: rest => do
      let name := first.shown
      let texts := rest.map Extended.Operand.shown
      let state ← get
      match if functions then state.functions.lookup name else none with
      | some function => callFunction starter fuel manner name function texts
      | none =>
          if Extended.commandNames.contains name then do
            let before := state.command
            modify ({ · with command := some name })
            let result ← Sh.attempt (runBuiltin starter fuel manner name rest)
            concludeCommand false before result
          else runFullProgram starter fuel manner (name :: texts)

/-- Run a program for the extended shell. -/
def runFullProgram (starter : Starter) : Nat -> Manner -> List Octets -> Sh Nat
  | 0, _, _ => pure 0
  | _ + 1, manner, words => do
      let state ← get
      let name := words.headD ""
      match ← findProgram (state.value? "PATH") name with
      | .error .missing => do
          Sh.warnBare s!"{name}: command not found"
          pure 127
      | .error fault => do
          let (text, status) ← Extended.runFault name fault
          Sh.warnBare s!"{name}: {text}"
          pure status
      | .ok path =>
          if manner.last && !state.hasTraps then Extended.become starter path words
          else
            let job ← beginJob
            if ← copyShell job false then endCopy (Extended.become starter path words)
            else finishJob job

/-- Carry out a command of the extended shell. -/
def runBuiltin (starter : Starter) :
    Nat -> Manner -> Octets -> List Extended.Operand -> Sh Nat
  | 0, _, _, _ => pure 0
  | fuel + 1, manner, name, operands => do
      let args := operands.map Extended.Operand.shown
      match name with
      | "eval" => do
          let texts ← Extended.operands args
          let line := (← get).line
          let label := (← get).label
          modify ({ · with label := "eval: ", command := none })
          let inner : Manner := { tested := manner.tested }
          let status ← runLines starter fuel inner line (String.intercalate " " texts)
          modify ({ · with label })
          pure status
      | "." | "source" => do
          match ← Extended.operands args with
          | [] => do
              Sh.warn "filename argument required"
              Extended.tellUsage
          | script :: texts => do
              let path ← Extended.findScript script
              let text ← Extended.readScript path
              runSource starter fuel path text texts
      | "exec" => do
          let known := Extended.flags "cl" ++ [('a', true)]
          match ← Extended.options known args with
          | (_, []) => pure 0
          | (given, name :: texts) => do
              let words := (given.lookup 'a').getD name :: texts
              match ← searchProgram ((← get).value? "PATH") name with
              | .ok path => Extended.become starter path words
              | .error _ => Extended.becomeNamed starter (name :: texts)
      | "command" => do
          let (given, rest) ← Extended.options (Extended.flags "pVv") args
          let letters := given.map (·.1)
          match rest with
          | [] => pure 0
          | named => do
              let usual := letters.contains 'p'
              if letters.contains 'v' || letters.contains 'V' then
                let directories ←
                  if usual then pure usualDirectories else Extended.searchPath
                let statuses ←
                  named.mapM (Extended.describeCommand (letters.contains 'V') directories)
                pure (statuses.foldl max 0)
              else
                modify ({ · with command := none })
                runOperands starter fuel manner false (named.map .text)
      | "builtin" => do
          match ← Extended.operands args with
          | [] => pure 0
          | named :: rest =>
              if Extended.commandNames.contains named then
                modify ({ · with command := none })
                runOperands starter fuel manner false (.text named :: rest.map .text)
              else Extended.complain s!"{named}: not a shell builtin"
      | name =>
          match Extended.declaring? name, Extended.command? name with
          | some declaring, _ => declaring operands
          | none, some command => command args
          | none, none => pure 127

/-- Run a script that is read, perhaps with arguments of its own. -/
def runSource (starter : Starter) :
    Nat -> Octets -> Octets -> List Octets -> Sh Nat
  | 0, _, _, _ => pure 0
  | fuel + 1, path, text, texts => do
      let before ← get
      let running : Running :=
        { name := "source", line := before.line, source := before.source }
      set { before with
        running := running :: before.running, source := some path, label := ""
        command := none, args := if texts.isEmpty then before.args else texts }
      let result ← Sh.attempt (runLines starter fuel {} 1 text)
      modify fun state =>
        let skip :=
          match state.skip with
          | some (.returning _) => none
          | skip => skip
        { state with
          running := before.running, source := before.source, label := before.label, skip
          args := if texts.isEmpty then state.args else before.args }
      match result with
      | .ok _ => do pure (← get).status
      | .error jump => Sh.jump jump

/-- Carry out a command of the shell. -/
def runCommand (starter : Starter) : Nat -> Manner -> Octets -> List Octets -> Sh Nat
  | 0, _, _, _ => pure 0
  | fuel + 1, manner, name, args => do
      match name with
      | "eval" =>
          if args.isEmpty then pure 0
          else runText starter fuel { tested := manner.tested } (String.intercalate " " args)
      | "." => do
          match ← operandsOf args with
          | [] => pure 0
          | script :: _ => do
              let path ← findScript script
              let text ← readScript path
              modify ({ · with command := some path })
              let status ← runText starter fuel {} text
              modify fun state =>
                match state.skip with
                | some (.returning _) => { state with skip := none }
                | _ => state
              pure status
      | "exec" => do
          match ← operandsOf args with
          | [] => pure 0
          | words => becomeNamed starter words
      | "command" => describeOne args
      | _ =>
          match command? name with
          | some command => command args
          | none => pure 127

/-- Run the commands of a text; the result is the status of the last one. -/
def runText (starter : Starter) : Nat -> Manner -> Octets -> Sh Nat
  | 0, _, _ => pure 0
  | fuel + 1, manner, text => do
      runLines starter fuel manner 1 text

/-- Run the commands of a text that starts on a line; the result is the status of the last one. -/
def runLines (starter : Starter) : Nat -> Manner -> Nat -> Octets -> Sh Nat
  | 0, _, _, _ => pure 0
  | fuel + 1, manner, line, text => do
      let state ← get
      runFrom starter fuel manner (Reader.ofText state.language text line state.next) 0

/-- Run the commands that a reader finds; the number is the status so far. -/
def runFrom (starter : Starter) : Nat -> Manner -> Reader -> Nat -> Sh Nat
  | 0, _, _, status => pure status
  | fuel + 1, manner, reader, status => do
      let state ← get
      let aliases := if state.language == .plain then state.aliases else []
      let groups := state.settings.contains "extglob"
      match { reader with aliases, groups }.next?, state.language with
      | .error error, .plain => Sh.failSyntax error
      | .error error, .extended => do
          Sh.warnSyntax state.label error
          modify ({ · with status := error.status })
          pure error.status
      | .ok (none, _, _), _ => pure status
      | .ok (some script, reader, isLast), .extended => do
          for (line, text) in reader.warnings do
            let start := s!"{state.source.getD state.name}: line {line}: "
            Sh.act (Act.complain s!"{start}{text}\n")
          modify fun state =>
            { state with
              next := reader.next, documents := reader.documents ++ state.documents }
          let reader := { reader with documents := [] }
          let landing ← landing
          match ← Sh.attempt
              (evaluate starter fuel (if isLast then manner else manner.inner) script) with
          | .ok found => do
              let status := if script.isNothing then status else found
              if (← get).skip.isSome then pure status
              else runFrom starter fuel manner reader status
          | .error .discard => do
              land landing
              if isLast && manner.last then Sh.jump .finish
              else runFrom starter fuel manner reader (← get).status
          | .error jump => Sh.jump jump
      | .ok (some script, reader, isLast), .plain => do
          modify fun state =>
            { state with
              next := reader.next, documents := reader.documents ++ state.documents }
          let reader := { reader with documents := [] }
          let found ← evaluate starter fuel (if isLast then manner else manner.inner) script
          let status := if script.isNothing then status else found
          if (← get).skip.isSome then pure status
          else runFrom starter fuel manner reader status

/-- The output of a script, or the name of the file that a command is used as. -/
def capture (starter : Starter) : Nat -> Script -> Sh Octets
  | 0, _ => pure ""
  | _ + 1, .nothing => pure ""
  | fuel + 1, .channel reads body => openChannel starter fuel reads body
  | fuel + 1, script => do
      match if (← get).language == .extended then readFile? script else none with
      | some name => do
          let path ← Wire.fileName (capture starter fuel) name
          match ← Sh.call (.open path .reading) with
          | .error fault => do
              Sh.warnBare s!"{path}: {fault.text}"
              modify ({ · with outputStatus := 1 })
              pure ""
          | .ok descriptor => do
              let read ← Sh.act (readAll descriptor)
              let _ ← Sh.call (.close descriptor)
              modify ({ · with outputStatus := 0 })
              pure ((read.toOption.map outputText).getD "")
      | none => captureApart starter fuel script

/-- The output of a script that is run in a copy of the shell. -/
def captureApart (starter : Starter) : Nat -> Script -> Sh Octets
  | 0, _ => pure ""
  | fuel + 1, script => do
      let (source, sink) ← Sh.call .pipe
      let job ← beginJob
      if ← copyShell job false then
        modify fun state =>
          let keeps := state.language == .plain || state.settings.contains "inherit_errexit"
          { state with
            options := if keeps then state.options else state.options.filter (· != 'e')
            traceDepth := state.traceDepth + 1 }
        runCopy starter fuel do
          let _ ← Sh.call (.close source)
          if sink != 1 then
            let _ ← Sh.call (.assign sink 1)
            let _ ← Sh.call (.close sink)
          let _ ← evaluate starter fuel { last := true } script
      else
        let _ ← Sh.call (.close sink)
        let read ← Sh.act (readAll source)
        let _ ← Sh.call (.close source)
        let outputStatus ← finishJob job
        modify ({ · with outputStatus })
        match read with
        | .ok bytes => do
            if (← get).language == .extended && bytes.toList.contains 0 then
              Sh.warnBare "warning: command substitution: ignored null byte in input"
            pure (outputText bytes)
        | .error _ => pure ""

/-- Start a command that is used as a file; the result is the name of the file. -/
def openChannel (starter : Starter) : Nat -> Bool -> Script -> Sh Octets
  | 0, _, _ => pure ""
  | fuel + 1, reads, body => do
      let (source, sink) ← Sh.call .pipe
      let (own, other) := if reads then (sink, source) else (source, sink)
      let job ← beginJob
      if ← copyShell job false then
        runCopy starter fuel do
          let _ ← Sh.call (.close own)
          let standard := if reads then 0 else 1
          if other != standard then
            let _ ← Sh.call (.assign other standard)
            let _ ← Sh.call (.close other)
          let _ ← evaluate starter fuel { last := true } body
      else
        let _ ← Sh.call (.close other)
        let number := firstChannel - (← get).channels.length
        let _ ← Sh.call (.assign own number)
        let _ ← Sh.call (.close own)
        modify fun state =>
          { state with
            channels := number :: state.channels
            lastAside := ((state.job? job).bind fun job => job.processes.head?).map (·.1) }
        pure s!"/dev/fd/{number}"

/-- See to the signals that have come. -/
def handleTraps (starter : Starter) : Nat -> Sh Unit
  | 0 => pure ()
  | fuel + 1 => do
      noteSignals
      let state ← get
      if !state.pending.isEmpty then
        let status := state.saved.getD state.status
        modify ({ · with saved := some status, pending := [] })
        for number in state.pending.eraseDups.mergeSort fun a b => decide (a ≤ b) do
          if (← get).skip.isSome then
            modify fun state => { state with pending := state.pending ++ [number] }
          else
            match (← get).traps.lookup number with
            | none => pure ()
            | some text => do
                let _ ← runText starter fuel {} text
                if (← get).skip != some (.returning true) then modify ({ · with status })
        modify ({ · with saved := state.saved })

/-- Bring a shell to its end, after something has broken it off or not; the result is its status. -/
def conclude (starter : Starter) : Nat -> Option Jump -> Sh Nat
  | 0, _ => do pure (← get).status
  | fuel + 1, jump => do
      comeBack jump
      let state ← get
      match state.traps.lookup 0 with
      | none => pure ()
      | some text => do
          set { state with
            saved := some state.status, traps := state.traps.filter (·.1 != 0) }
          match ← Sh.attempt (runText starter fuel {} text) with
          | .ok _ => do
              modify ({ · with skip := some (.returning false) })
              comeBack none
          | .error jump => comeBack (some jump)
      Sh.flush
      pure (← get).status

/-- Do something in a copy of the shell and end the copy. -/
def runCopy (starter : Starter) : Nat -> Sh Unit -> Sh α
  | 0, _ => do Sh.act (Act.exit 0)
  | fuel + 1, body => do
      let result ← Sh.attempt body
      let jump :=
        match result with
        | .ok () => none
        | .error jump => some jump
      let status ← conclude starter fuel jump
      Sh.act (Act.exit status)

end

end Shell
end CameraFleet
