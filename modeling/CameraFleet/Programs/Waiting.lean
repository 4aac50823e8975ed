import CameraFleet.Number.Quantity
import CameraFleet.Programs.Options
import CameraFleet.Programs.Search

/-!
# Programs that wait

One lets time pass; another one lets a program run for a limited time.
-/

namespace CameraFleet
namespace Programs

open Host

/-- The seconds that a letter after a number stands for. -/
def unitSeconds? (letters : List Char) : Option Nat :=
  match letters with
  | [] | ['s'] => some 1
  | ['m'] => some 60
  | ['h'] => some 3600
  | ['d'] => some 86400
  | _ => none

/-- The milliseconds that a text stands for; nothing inside stands for a time without end. -/
def duration? (text : Octets) : Option (Option Nat) :=
  match Quantity.read? text.toList with
  | none => none
  | some (value, rest) =>
      match value, unitSeconds? rest with
      | .finite negative numerator _, some unit =>
          if negative && 0 < numerator then none else some (some (value.ceiling (1000 * unit)))
      | .infinite false, some _ => some none
      | _, _ => none

/-- One time after another. -/
def addDurations (first second : Option Nat) : Option Nat :=
  match first, second with
  | some a, some b => some (a + b)
  | _, _ => none

/-- What is wrong with a text that stands for no time. -/
def durationFault (text : Octets) : Octets :=
  s!"invalid time interval {Quoted.plain text}"

/-- Let time pass. -/
def sleep : Program :=
  withOptions { } 1 fun launch _ operands => do
    let wrong := operands.filter fun operand => (duration? operand).isNone
    if operands.isEmpty then misuse launch.name "missing operand" 1
    else if !wrong.isEmpty then
      for operand in wrong do
        warn launch.name (durationFault operand)
      Act.complain (hint launch.name)
      pure 1
    else
      Act.sleep ((operands.filterMap duration?).foldl addDurations (some 0))
      pure 0

/-! ## Limits -/

/-- The signal that a text names by number or by name. -/
def signalOf? (text : Octets) : Option Signal :=
  match natural? text with
  | some number => if number ≤ Signal.greatest then some ⟨number⟩ else none
  | none =>
      let chars := text.toUpper.toList
      let name :=
        if "SIG".toList.isPrefixOf chars then String.ofList (chars.drop 3) else text.toUpper
      if name == "EXIT" then some ⟨0⟩ else Signal.ofName? name

/-- How the time of a program is limited. -/
structure Limit where
  /-- The signal that is sent when the time is up. -/
  signal : Signal := .terminate
  /-- The time after which the program is killed, if that was asked for. -/
  killAfter : Option (Option Nat) := none
  /-- Whether only the program itself gets signals. -/
  alone : Bool := false
  /-- Whether the status of the program counts even if its time was up. -/
  keepsStatus : Bool := false
  /-- Whether it is told which signals are sent. -/
  tells : Bool := false
  deriving Repr, DecidableEq

namespace Limit

/-- A limit with one more option. -/
def add (limit : Limit) (option : Given) : Except Octets Limit :=
  let argument := option.argument.getD ""
  match option.letter with
  | 'k' =>
      match duration? argument with
      | some time => .ok { limit with killAfter := some time }
      | none => .error (durationFault argument)
  | 's' =>
      match signalOf? argument with
      | some signal => .ok { limit with signal }
      | none => .error s!"{Quoted.plain argument}: invalid signal"
  | 'f' => .ok { limit with alone := true }
  | 'p' => .ok { limit with keepsStatus := true }
  | _ => .ok { limit with tells := true }

/-- The signals that are passed on. -/
def passedOn : List Signal :=
  [⟨14⟩, .interrupt, .quit, .hangup, .terminate]

/-- The signal that lets a stopped process go on. -/
def goOn : Signal := ⟨18⟩

/-- Send a signal to all processes of the own group but the own process. -/
def sendOthers (signal : Signal) : Act Unit := do
  Act.call (.dispose signal .ignored)
  Act.call (.sendGroup signal)

/-- Send a signal to the program and to what it has started. -/
def strike
    (limit : Limit)
    (name command : Octets)
    (child : Nat)
    (signal : Signal) : Act Unit := do
  if limit.tells then
    let shown := signal.name?.getD (toString signal.number)
    warn name s!"sending signal {shown} to command {Quoted.plain command}"
  if signal.number != 0 then
    let _ ← Act.call (.send child signal)
  if !limit.alone && signal.number != 0 then
    sendOthers signal
    if signal != .kill && signal != goOn then
      let _ ← Act.call (.send child goOn)
      sendOthers goOn

/-- The time after a wait, if the wait ever ends. -/
def timeAfter (wait : Option Nat) : Act (Option Nat) := do
  let now ← Act.call .clock
  pure (wait.map (now + ·))

/-- The status that tells how the program has ended. -/
def statusOf
    (limit : Limit)
    (late : Bool) : Ending -> Act Nat
  | .exited status => pure (if late && !limit.keepsStatus then 124 else status)
  | .killed signal => do
      if late then
        pure (if limit.keepsStatus || signal == .kill then 128 + signal.number else 124)
      else
        Act.call (.dispose signal .usual)
        let _ ← Act.call (.send (← Act.call .identity).1 signal)
        pure (128 + signal.number)
  | ending => pure ending.status

/-- Wait for the end of the program, up to a time, and see that it does end. -/
def watch
    (limit : Limit)
    (name command : Octets)
    (child : Nat) :
    Nat -> Option Nat -> Bool -> Option (Option Nat) -> Signal -> Act Nat
  | 0, _, _, _, _ => pure 124
  | turns + 1, deadline, late, killAfter, signal => do
      let patience :=
        match deadline with
        | some time => Patience.untilTime time
        | none => .untilSignal
      let again (signal : Signal) (late : Bool) (next : Signal) : Act Nat := do
        let deadline ←
          match killAfter with
          | some wait => timeAfter wait
          | none => pure (if late then none else deadline)
        strike limit name command child signal
        watch limit name command child turns deadline late none
          (if killAfter.isSome then .kill else next)
      match ← Act.call (.await (some child) patience) with
      | .ended _ ending => statusOf limit late ending
      | .childless => pure 124
      | .notYet => again signal true signal
      | .interrupted => do
          let came ← Act.call .caught
          again (came.headD .terminate) late signal

/-- Let a program run for a time, if there is a limit at all. -/
def run
    (limit : Limit)
    (starter : Starter)
    (launch : Launch)
    (wait : Option Nat)
    (command : Octets)
    (args : List Octets) : Act Nat := do
  if !limit.alone then Act.call .lead
  for signal in passedOn do
    Act.call (.dispose signal .caught)
  match ← Act.call .fork with
  | none => do
      for signal in passedOn do
        Act.call (.dispose signal .usual)
      let status ← startOr starter { launch with name := command, args } fun fault =>
        s!"{launch.name}: failed to run command {Quoted.plain command}: {fault.text}\n"
      Act.exit status
  | some child => do
      let deadline ← if wait == some 0 then pure none else timeAfter wait
      limit.watch launch.name command child manyTurns deadline false limit.killAfter limit.signal

end Limit

/-- Let a program run for a limited time. -/
def timeout (starter : Starter) : Program :=
  withOptions
    { letters := [('k', .something), ('s', .something), ('v', .nothing)]
      words :=
        [("foreground", 'f', .nothing), ("kill-after", 'k', .something),
          ("preserve-status", 'p', .nothing), ("signal", 's', .something),
          ("verbose", 'v', .nothing)]
      permutes := false } 125 fun launch given operands => do
    match given.foldlM Limit.add {}, operands with
    | .error reason, _ => misuse launch.name reason 125
    | .ok limit, time :: command :: args =>
        match duration? time with
        | none => misuse launch.name (durationFault time) 125
        | some wait => limit.run starter launch wait command args
    | .ok _, _ => do
        Act.complain (hint launch.name)
        pure 125

end Programs
end CameraFleet
