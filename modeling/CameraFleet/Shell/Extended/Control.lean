import CameraFleet.Shell.Extended.Quoting
import CameraFleet.Shell.Extended.Usage
import CameraFleet.Shell.Jobs
import CameraFleet.Shell.Lookup

/-!
# Control

The commands of the extended shell that leave loops, functions and the shell
itself, and those that deal with signals and processes.
-/

namespace CameraFleet
namespace Shell
namespace Extended

open Host

/-! ## Loops, functions and the shell -/

/-- The keywords of loops, as complaints name them. -/
def loopWords : Octets := "\x60for', \x60while', or \x60until'"

/-- Leave loops, or go on with them. -/
def leaveLoops (goesOn : Bool) (args : List Octets) : Sh Nat := do
  let loops := (← get).loops
  if loops = 0 then
    Sh.warn s!"only meaningful in a {loopWords} loop"
    pure 0
  else
    let leave (count : Nat) (status : Nat) : Sh Nat := do
      modify ({ · with skip := some (if goesOn then .continuing count else .leaving count) })
      pure status
    match args with
    | [] => leave 1 0
    | [arg] =>
        match decimal? arg with
        | none => do
            Sh.warn s!"{arg}: numeric argument required"
            Sh.flush
            modify ({ · with status := 128 })
            Sh.jump .finish
        | some count =>
            if count ≤ 0 then
              Sh.warn s!"{arg}: loop count out of range"
              modify ({ · with skip := some (.leaving loops) })
              pure 1
            else leave (min count.toNat loops) 0
    | _ => do
        Sh.warn "too many arguments"
        leave loops 1

/-- The status that a number means. -/
def statusOf (n : Int) : Nat := (n.emod 256).toNat

/-- Leave a function or a script that is read. -/
def leaveFunction (args : List Octets) : Sh Nat := do
  let state ← get
  let leave (status : Nat) : Sh Nat := do
    if state.running.isEmpty then
      refuse 2 "can only \x60return' from a function or sourced script"
    else
      modify ({ · with skip := some (.returning true), status })
      pure status
  match args with
  | [] => leave state.status
  | [arg] =>
      match decimal? arg with
      | some n => leave (statusOf n)
      | none => do
          Sh.warn s!"{arg}: numeric argument required"
          leave 2
  | _ => Sh.failWith 1 .discard "too many arguments"

/-- End the shell. -/
def exitCommand (args : List Octets) : Sh Nat := do
  match args with
  | [] => Sh.jump .exit
  | arg :: rest => do
      match decimal? arg with
      | none => do
          Sh.warn s!"{arg}: numeric argument required"
          modify ({ · with saved := some 2 })
          Sh.jump .exit
      | some n =>
          if rest.isEmpty then
            modify ({ · with saved := some (statusOf n) })
            Sh.jump .exit
          else Sh.failWith 1 .discard "too many arguments"

/-- Tell from where the function that is run was called. -/
def callerCommand (args : List Octets) : Sh Nat := do
  let state ← get
  match args, state.running with
  | _, [] => pure 1
  | [], running :: _ => do
      let source := running.source.getD "NULL"
      Sh.print s!"{running.line} {source}\n"
      pure 0
  | arg :: _, calls =>
      match (Programs.natural? arg) with
      | none => misuse s!"{arg}: invalid number"
      | some number =>
          match calls[number]?, calls[number + 1]? with
          | some call, some outer => do
              let source := call.source.getD "NULL"
              Sh.print s!"{call.line} {outer.name} {source}\n"
              pure 0
          | _, _ => pure 1

/-! ## Signals -/

/-- The number that stands for commands that fail. -/
def failureTrap : Nat := 66

/-- The number that stands for every simple command. -/
def commandTrap : Nat := 65

/-- The number that stands for the end of functions. -/
def returnTrap : Nat := 67

/-- The events besides signals and the end that commands can be set for. -/
def events : List (Octets × Nat) :=
  [("DEBUG", commandTrap), ("ERR", failureTrap), ("RETURN", returnTrap)]

/-- The name of a signal, an event or the end, as it is shown. -/
def eventName (number : Nat) : Octets :=
  if number = 0 then "EXIT"
  else
    match events.find? (·.2 = number) with
    | some (name, _) => name
    | none => "SIG" ++ signalName number

/-- The number of a signal, an event or the end. -/
def eventNumber? (text : Octets) : Option Nat :=
  let name := text.toUpper
  match events.lookup name with
  | some number => some number
  | none =>
      if name.startsWith "SIG" then
        (signalNumber? 1 (name.drop 3).toString).filter fun _ =>
          (Programs.natural? (name.drop 3).toString).isNone
      else signalNumber? 0 text

/-- The numbers of signals that have names. -/
def namedSignals : List Nat :=
  (List.range (Signal.greatest + 1)).filter fun number =>
    0 < number && number != 32 && number != 33

/-- Show all signals in a table. -/
def showSignals : Sh Unit := do
  let cell (number : Nat) : Octets :=
    let name := if number = 16 then "SIGSTKFLT" else eventName number
    let blank := if number < 10 then " " else ""
    s!"{blank}{number}) {name}"
  for (number, place) in namedSignals.zipIdx do
    let isLast := place % 5 = 4 || place + 1 = namedSignals.length
    Sh.print (cell number ++ if isLast then "\n" else "\t")

/-- Show what is run when something happens. -/
def showTraps (wanted : List Nat) : Sh Unit := do
  let traps := (← get).traps.mergeSort fun a b => decide (a.1 ≤ b.1)
  for (number, text) in traps do
    if wanted.isEmpty || wanted.contains number then
      Sh.print s!"trap -- {Quoting.single text} {eventName number}\n"

/-- Say what is run when some things happen; the status. -/
def setEvents (action : Option Octets) (names : List Octets) : Sh Nat := do
  let statuses ← names.mapM fun name => do
    match eventNumber? name with
    | none => complain s!"{name}: invalid signal specification"
    | some number => do
        if Signal.greatest < number then
          modify fun state =>
            let others := state.traps.filter (·.1 != number)
            { state with
              traps := match action with
                | some text => (number, text) :: others
                | none => others }
        else setTrap action number
        pure 0
  pure (statuses.foldl max 0)

/-- Say what is run when signals come and other things happen, or show it. -/
def trapCommand (args : List Octets) : Sh Nat := do
  let (given, rest) ← options (flags "lp") args
  let letters := given.map (·.1)
  if letters.contains 'l' then
    showSignals
    pure 0
  else if letters.contains 'p' || rest.isEmpty then
    let unknown := rest.filter fun name => (eventNumber? name).isNone
    for name in unknown do
      Sh.warn s!"{name}: invalid signal specification"
    if rest.isEmpty || unknown.length < rest.length then
      showTraps (rest.filterMap eventNumber?)
    pure (if unknown.isEmpty then 0 else 1)
  else
    match rest with
    | [name] => if (eventNumber? name).isSome then setEvents none [name] else tellUsage
    | first :: names =>
        if first == "-" then setEvents none names
        else if (Programs.natural? first).isSome && (eventNumber? first).isSome then
          setEvents none rest
        else setEvents (some first) names
    | [] => pure 0

/-! ## Processes -/

/-- The job that an argument with a percent sign names, if there is one. -/
def namedJob? (arg : Octets) : Sh (Option Job) := do
  pure (jobOf? (← get) (String.ofList (arg.toList.drop 1)))

/-- Send a signal to what an argument names; whether this succeeds. -/
def sendOne (signal : Nat) (arg : Octets) : Sh Bool := do
  let process? : Option Nat ←
    if arg.startsWith "%" then do
      match ← namedJob? arg with
      | some job => pure (job.processes.head?.map (·.1))
      | none => do
          Sh.warn s!"{arg}: no such job"
          pure none
    else
      match decimal? arg with
      | some n => pure (some n.natAbs)
      | none => do
          Sh.warn s!"{arg}: arguments must be process or job IDs"
          pure none
  match process? with
  | none => pure false
  | some process => do
      let self := (← Sh.call .identity).1
      let target := if process = 0 then self else process
      let failed ←
        if signal = 0 then do
          pure (if ← Sh.call (.probe target) then none else some Fault.noProcess)
        else
          match ← Sh.call (.send target ⟨signal⟩) with
          | .ok () => pure none
          | .error fault => pure (some fault)
      match failed with
      | none => pure true
      | some fault => do
          Sh.warn s!"({process}) - {fault.text}"
          pure false

/-- Show the names of signals, or the names or numbers of some. -/
def listEvents (args : List Octets) : Sh Nat := do
  if args.isEmpty then
    showSignals
    pure 0
  else
    let statuses ← args.mapM fun arg => do
      match decimal? arg with
      | some n =>
          let number := if 128 < n then n - 128 else n
          if 0 < number && number ≤ Signal.greatest then
            Sh.print s!"{signalName number.toNat}\n"
            pure 0
          else complain s!"{arg}: invalid signal specification"
      | none =>
          match eventNumber? arg with
          | some number => do
              Sh.print s!"{number}\n"
              pure 0
          | none => complain s!"{arg}: invalid signal specification"
    pure (statuses.foldl max 0)

/-- Send a signal to processes. -/
def killCommand (args : List Octets) : Sh Nat := do
  let signalFor (name : Octets) : Sh Nat := do
    match (eventNumber? name).filter (· ≤ Signal.greatest) with
    | some number => pure number
    | none => refuse 1 s!"{name}: invalid signal specification"
  let send (signal : Nat) (rest : List Octets) : Sh Nat := do
    let rest := if rest.head? == some "--" then rest.drop 1 else rest
    if rest.isEmpty then tellUsage
    else
      let sent ← rest.mapM (sendOne signal)
      pure (if sent.any id then 0 else 1)
  match args with
  | [] => tellUsage
  | "-l" :: rest | "-L" :: rest => listEvents rest
  | "-s" :: rest | "-n" :: rest =>
      match rest with
      | [] => refuse 1 (args.headD "" ++ ": option requires an argument")
      | name :: rest => do send (← signalFor name) rest
  | "--" :: rest => send Signal.terminate.number rest
  | first :: rest =>
      if first.startsWith "-" then do send (← signalFor (first.drop 1).toString) rest
      else send Signal.terminate.number args

/-- Wait until something that an argument names has ended; its status. -/
def waitFor (arg : Octets) : Sh Nat := do
  let awaited (job : Job) : Sh Nat := do
    if ← awaitJob job.number .untilSignal Programs.manyTurns then
      let status := (((← get).job? job.number).map (·.ending.status)).getD 127
      modify (·.changeJob job.number ({ · with awaited := true }))
      pure status
    else signalStatus
  if arg.startsWith "%" then
    match ← namedJob? arg with
    | some job => awaited job
    | none => do
        Sh.warn s!"{arg}: no such job"
        pure 127
  else
    match Programs.natural? arg with
    | none => complain s!"\x60{arg}': not a pid or valid job spec"
    | some process =>
        match (← get).jobs.find? fun job => job.processes.any (·.1 == process) with
        | some job => awaited job
        | none => do
            Sh.warn s!"pid {process} is not a child of this shell"
            pure 127

/-- Wait for jobs. -/
def waitCommand (args : List Octets) : Sh Nat := do
  let (given, rest) ← options [('f', false), ('n', false), ('p', true)] args
  if given.any (·.1 == 'n') then
    let waiting := (← get).jobs.filter fun job => !job.awaited
    match waiting.getLast? with
    | none => pure 127
    | some job =>
        match job.processes.getLast? with
        | some (process, _) => waitFor (toString process)
        | none => pure 127
  else if rest.isEmpty then awaitAll Programs.manyTurns
  else
    let statuses ← rest.mapM waitFor
    pure (statuses.getLastD 0)

/-- Let a job go on, which is not possible without a terminal. -/
def resumeJob (_ : List Octets) : Sh Nat :=
  complain "no job control"

/-- Forget jobs. -/
def disownCommand (args : List Octets) : Sh Nat := do
  let (given, rest) ← options (flags "ahr") args
  if given.any (·.1 == 'a') then
    modify ({ · with jobs := [] })
    pure 0
  else
    match rest with
    | [] =>
        match (← get).jobs with
        | [] => complain "current: no such job"
        | job :: _ => do
            modify (·.dropJob job.number)
            pure 0
    | names => do
        let statuses ← names.mapM fun name => do
          let found ←
            if name.startsWith "%" then namedJob? name
            else do
              let process := (Programs.natural? name).getD 0
              pure ((← get).jobs.find? fun job => job.processes.any (·.1 == process))
          match found with
          | some job => do
              modify (·.dropJob job.number)
              pure 0
          | none => complain s!"{name}: no such job"
        pure (statuses.foldl max 0)

end Extended
end Shell
end CameraFleet
