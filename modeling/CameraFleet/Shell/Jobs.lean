import CameraFleet.Shell.Options

/-!
# Jobs

The shell makes copies of itself and notes which of them belong together. It
waits for those whose status it needs; of others it learns in passing.
-/

namespace CameraFleet
namespace Shell

open Host

namespace Job

/-- Whether all processes have ended. -/
def isDone (job : Job) : Bool :=
  job.processes.all (·.2.isSome)

/-- How the last process has ended, if all have. -/
def ending (job : Job) : Ending :=
  (job.processes.getLast?.bind (·.2)).getD (.exited 0)

/-- Note how a process has ended. -/
def note
    (job : Job)
    (process : Nat)
    (ending : Ending) : Job :=
  { job with
    processes := job.processes.map fun (other, known) =>
      if other == process then (other, some ending) else (other, known) }

/-- Whether a process belongs to a job. -/
def has (job : Job) (process : Nat) : Bool :=
  job.processes.any (·.1 == process)

end Job

/-- The job of a number. -/
def State.job? (state : State) (number : Nat) : Option Job :=
  state.jobs.find? (·.number == number)

/-- Change the job of a number. -/
def State.changeJob
    (state : State)
    (number : Nat)
    (change : Job -> Job) : State :=
  { state with
    jobs := state.jobs.map fun job => if job.number == number then change job else job }

/-- Forget the job of a number. -/
def State.dropJob (state : State) (number : Nat) : State :=
  { state with jobs := state.jobs.filter (·.number != number) }

/-- Begin a job; the result is its number. -/
def beginJob : Sh Nat := do
  let state ← get
  let isFree (number : Nat) : Bool :=
    (state.job? number).all fun job => job.isDone && job.awaited
  let number := (((List.range (state.jobs.length + 1)).map (· + 1)).find? isFree).getD 1
  let state := state.dropJob number
  set { state with jobs := { number } :: state.jobs }
  pure number

/-- The signals that background processes do not get from a terminal. -/
def terminalSignals : List Signal := [.interrupt, .quit]

/-- What a copy of the shell forgets. -/
def forgetParent : Sh Unit := do
  let state ← get
  let (kept, dropped) := state.traps.partition fun (_, text) => text.isEmpty
  for (number, _) in dropped do
    if number != 0 && number ≤ Signal.greatest then Sh.call (.dispose ⟨number⟩ .usual)
  set { state with traps := kept, pending := [], jobs := [], level := state.level + 1 }

/-- Make a copy of the shell, as a process of a job; whether this is the copy. -/
def copyShell
    (job : Nat)
    (aside : Bool) : Sh Bool := do
  let isFirst := (((← get).job? job).map (·.processes.isEmpty)).getD true
  match ← Sh.call .fork with
  | some process => do
      modify fun state =>
        let state := state.changeJob job fun job =>
          { job with processes := job.processes ++ [(process, none)] }
        if aside then { state with lastAside := some process } else state
      pure false
  | none => do
      forgetParent
      if aside then
        for signal in terminalSignals do
          Sh.call (.dispose signal .ignored)
        if isFirst then
          let _ ← Sh.call (.close 0)
          let _ ← Sh.call (.open "/dev/null" .reading)
      pure true

/-- Whether the shell tells that a signal has ended a process. -/
def isTold (signal : Signal) : Bool :=
  signal != .interrupt && signal != .pipe

/-- Learn that a child has ended; its job may be one for which the shell waits. -/
def learn
    (wanted : Option Nat)
    (process : Nat)
    (ending : Ending) : Sh Unit := do
  match (← get).jobs.find? (·.has process) with
  | none => pure ()
  | some job => do
      modify (·.changeJob job.number (·.note process ending))
      match ending with
      | .killed signal =>
          if wanted == some job.number && isTold signal then
            Sh.act (Act.complain s!"{signal.text}\n")
      | _ => pure ()

/-- Learn of all children that have ended. -/
def learnAll : Nat -> Sh Unit
  | 0 => pure ()
  | turns + 1 => do
      match ← Sh.call (.await none .none) with
      | .ended process ending => do
          learn none process ending
          learnAll turns
      | _ => pure ()

/-- Wait until a job is done, or until a signal comes; whether it is done. -/
def awaitJob
    (number : Nat)
    (patience : Patience) : Nat -> Sh Bool
  | 0 => pure true
  | turns + 1 => do
      if ((← get).job? number).all (·.isDone) then pure true
      else
        match ← Sh.call (.await none patience) with
        | .ended process ending => do
            learn (some number) process ending
            awaitJob number patience turns
        | .interrupted => pure false
        | .notYet | .childless => pure true

/-- The status of a job that is over and done with. -/
def finishJob (number : Nat) : Sh Nat := do
  let _ ← awaitJob number .full Programs.manyTurns
  let status := (((← get).job? number).map (·.ending.status)).getD 0
  modify (·.dropJob number)
  pure status

/-- Take note of the signals that have come. -/
def noteSignals : Sh Unit := do
  let signals ← Sh.call .caught
  if !signals.isEmpty then
    modify fun state => { state with pending := state.pending ++ signals.map (·.number) }

/-- The status that tells of the last signal that has come. -/
def signalStatus : Sh Nat := do
  noteSignals
  pure (128 + (← get).pending.getLast?.getD 0)

/-! ## Commands -/

/-- The job that a text after a percent sign names, if it is one. -/
def jobOf? (state : State) (text : Octets) : Option Job :=
  match text.toList with
  | [] | ['%'] | ['+'] => state.jobs.head?
  | ['-'] => state.jobs[1]?
  | rest => (Programs.natural? (String.ofList rest)).bind state.job?

/-- The job that an argument names. -/
def jobOf (arg : Octets) : Sh Job := do
  let named := if arg.startsWith "%" then String.ofList (arg.toList.drop 1) else arg
  match jobOf? (← get) named with
  | some job => pure job
  | none => Sh.fail s!"No such job: {arg}"

/-- Wait for all jobs; the status. -/
def awaitAll : Nat -> Sh Nat
  | 0 => pure 0
  | turns + 1 => do
      match (← get).jobs.find? fun job => !job.isDone with
      | none => do
          modify fun state =>
            { state with jobs := state.jobs.map ({ · with awaited := true }) }
          pure 0
      | some _ => do
          match ← Sh.call (.await none .untilSignal) with
          | .ended process ending => do
              learn none process ending
              awaitAll turns
          | .interrupted => signalStatus
          | .notYet | .childless => pure 0

/-- Wait for the jobs that some arguments name; the status of the last one. -/
def awaitEach (status : Nat) : List Octets -> Sh Nat
  | [] => pure status
  | arg :: rest => do
      let job? ←
        if arg.startsWith "%" then do pure (some (← jobOf arg))
        else do
          let process ← Sh.numberOf arg
          pure ((← get).jobs.find? fun job => job.processes.getLast?.any (·.1 == process))
      match job? with
      | none => awaitEach status rest
      | some job => do
          if ← awaitJob job.number .untilSignal Programs.manyTurns then
            modify (·.changeJob job.number ({ · with awaited := true }))
            let status := (((← get).job? job.number).map (·.ending.status)).getD 127
            awaitEach status rest
          else signalStatus

/-- Wait for jobs. -/
def wait (args : List Octets) : Sh Nat := do
  let operands ← operandsOf args
  if operands.isEmpty then awaitAll Programs.manyTurns else awaitEach 127 operands

/-- What is said of a job. -/
def jobState (job : Job) : Octets :=
  if !job.isDone then "Running"
  else
    match job.ending with
    | .exited 0 => "Done"
    | .killed signal => signal.text
    | other => s!"Done({other.status})"

/-- A text with blanks after it, up to a width. -/
def padded (width : Nat) (text : Octets) : Octets :=
  text ++ String.ofList (List.replicate (max 1 (width - text.length)) ' ')

/-- Show a job. -/
def showJob
    (withProcesses : Bool)
    (job : Job) : Sh Unit := do
  let jobs := (← get).jobs
  let sign :=
    if jobs.head?.any (·.number == job.number) then "+"
    else if jobs[1]?.any (·.number == job.number) then "-"
    else " "
  let start := s!"[{job.number}] {sign} "
  let processes := job.processes.map (·.1)
  if withProcesses then
    let first := processes.headD 0
    Sh.print (padded 33 s!"{start}{first} {jobState job}" ++ "\n")
    for process in processes.drop 1 do
      Sh.print (padded 33 (padded start.length "" ++ s!"{process} ") ++ "| \n")
  else
    let others := String.join ((processes.drop 1).map fun _ => " | ")
    Sh.print (padded 33 (start ++ jobState job) ++ others ++ "\n")

/-- Show a job; if it is done this is the last time. -/
def tellJob
    (given : List Char)
    (job : Job) : Sh Unit := do
  if given.contains 'p' then Sh.print s!"{(job.processes.map (·.1)).headD 0}\n"
  else showJob (given.contains 'l') job

/-- Show the jobs. -/
def showJobs (args : List Octets) : Sh Nat := do
  let (given, operands) ← readOptions [('l', false), ('p', false)] args
  let given := given.map (·.1)
  learnAll Programs.manyTurns
  if operands.isEmpty then
    let jobs := (← get).jobs
    for job in jobs do
      tellJob given job
    modify fun state => { state with jobs := state.jobs.filter fun job => !job.isDone }
  else
    for operand in operands do
      tellJob given (← jobOf operand)
  pure 0

/-- Let a job go on, which is not possible without a terminal. -/
def resumeJob (args : List Octets) : Sh Nat := do
  let operands ← operandsOf args
  let named := operands.headD ""
  match jobOf? (← get) (if named.startsWith "%" then named.drop 1 |>.toString else named) with
  | some _ =>
      let shown := if operands.isEmpty then "(null)" else named
      Sh.fail s!"job {shown} not created under job control"
  | none =>
      if operands.isEmpty then Sh.fail "No current job" else Sh.fail s!"No such job: {named}"

/-! ## Signals -/

/-- The least number of a signal that is free for any use. -/
def leastFree : Nat := 34

/-- The name that a shell has for the number of a signal; zero stands for the end. -/
def signalName (number : Nat) : Octets :=
  if number = 0 then "EXIT"
  else if number = leastFree then "RTMIN"
  else if number = Signal.greatest then "RTMAX"
  else if leastFree < number && number < 50 then s!"RTMIN+{number - leastFree}"
  else if 50 ≤ number && number < Signal.greatest then s!"RTMAX-{Signal.greatest - number}"
  else if number = 16 then "16"
  else ((⟨number⟩ : Signal).name?).getD (toString number)

/-- The number of a signal that a text gives, by number or by name; names count from a bound on. -/
def signalNumber? (least : Nat) (text : Octets) : Option Nat :=
  match Programs.natural? text with
  | some number => if number ≤ Signal.greatest then some number else none
  | none =>
      let numbers := (List.range (Signal.greatest + 1)).drop least
      numbers.find? fun number => signalName number == text.toUpper

/-- How signals are sent. -/
def killUsage : Octets :=
  "Usage: kill [-s sigspec | -signum | -sigspec] [pid | job]... or\nkill -l [exitstatus]"

/-- Send a signal to a process; whether this succeeds. -/
def sendTo
    (signal : Nat)
    (arg : Octets) : Sh Bool := do
  let process ←
    if arg.startsWith "%" then do
      pure ((← jobOf arg).processes.map (·.1) |>.headD 0)
    else if arg.startsWith "-" then Sh.numberOf (arg.drop 1).toString
    else Sh.numberOf arg
  let self := (← Sh.call .identity).1
  let process := if process = 0 then self else process
  let failed ←
    if signal = 0 then do
      if ← Sh.call (.probe process) then pure none else pure (some Fault.noProcess)
    else
      match ← Sh.call (.send process ⟨signal⟩) with
      | .ok () => pure none
      | .error fault => pure (some fault)
  match failed with
  | none => pure true
  | some fault => do
      Sh.warn s!"{fault.text}\n"
      pure false

/-- Show the names of signals. -/
def listSignals : List Octets -> Sh Nat
  | [] => do
      let names := (List.range (Signal.greatest + 1)).drop 1 |>.map signalName
      Sh.print (String.join (("0" :: names).map (· ++ "\n")))
      pure 0
  | arg :: _ => do
      let number ← Sh.numberOf arg
      let number := if number > 128 then number - 128 else number
      if 0 < number && number ≤ Signal.greatest then
        Sh.print s!"{signalName number}\n"
        pure 0
      else Sh.fail s!"invalid signal number or exit status: {arg}"

/-- Send a signal to processes. -/
def kill (args : List Octets) : Sh Nat := do
  let direct : Option Nat :=
    match args.map String.toList with
    | ('-' :: name) :: _ => signalNumber? 1 (String.ofList name)
    | _ => none
  let (given, operands) ←
    if args.isEmpty then Sh.fail killUsage
    else if direct.isSome then pure ([], args.drop 1)
    else readOptions [('l', false), ('s', true)] args
  let lists := given.any (·.1 == 'l')
  let named ←
    match (given.reverse.find? (·.1 == 's')).map (·.2) with
    | none => pure direct
    | some name =>
        match signalNumber? 1 name with
        | some number => pure (some number)
        | none => Sh.fail s!"invalid signal number or name: {name}"
  if lists then
    if named.isSome then Sh.fail killUsage else listSignals operands
  else if operands.isEmpty then Sh.fail killUsage
  else
    let signal := named.getD Signal.terminate.number
    let sent ← operands.mapM (sendTo signal)
    pure (if sent.all id then 0 else 1)

/-- Say what is to be done when a signal comes. -/
def setTrap
    (action : Option Octets)
    (number : Nat) : Sh Unit := do
  let state ← get
  let others := state.traps.filter (·.1 != number)
  let isHard ←
    if number = 0 then pure false
    else do
      let disposition ← Sh.call (.disposition ⟨number⟩)
      pure (disposition == .ignored && state.traps.lookup number != some "")
  match action with
  | none => modify ({ · with traps := others })
  | some text => modify ({ · with traps := (number, text) :: others })
  if number != 0 && !isHard then
    let disposition :=
      match action with
      | none => Disposition.usual
      | some "" => .ignored
      | some _ => .caught
    Sh.call (.dispose ⟨number⟩ disposition)

/-- Say what is to be done when some signals come. -/
def setTraps (action : Option Octets) : List Octets -> Sh Nat
  | [] => pure 0
  | name :: rest => do
      match signalNumber? 0 name with
      | none => do
          Sh.act (Act.complain s!"trap: {name}: bad trap\n")
          pure 1
      | some number => do
          setTrap action number
          setTraps action rest

end Shell
end CameraFleet
