import CameraFleet.Programs.Records.Value
import CameraFleet.Programs.Search
import CameraFleet.Programs.Source

/-!
# What a running script knows

A running script has variables and arrays, the record with its fields, and files
and commands that it reads and writes. A name that is handed to a function before
it has got a value may turn out to be an array; then it is one for both sides.
-/

namespace CameraFleet
namespace Programs
namespace Records

open Host

/-- What a name stands for. -/
inductive Slot
  /-- A value. -/
  | value (value : Value)
  /-- An array, by its number. -/
  | array (number : Nat)
  /-- What a name outside stands for: in a call, which are counted, or in the script. -/
  | outer (call : Option Nat) (name : Octets)
  deriving Repr, DecidableEq

/-- Something that is written. -/
structure Output where
  /-- The name of the file, or the command. -/
  name : Octets
  /-- How it is written. -/
  how : Redirection
  /-- The descriptor. -/
  descriptor : Nat
  /-- The process that runs the command. -/
  child : Option Nat := none
  /-- What has not been written. -/
  pending : ByteArray := .empty

/-- Something that is read. -/
structure Input where
  /-- The name of the file, or the command. -/
  name : Octets
  /-- What is read. -/
  source : Source
  /-- The process that runs the command. -/
  child : Option Nat := none

/-- What is the same while a script runs. -/
structure Setting where
  /-- What the program was started with. -/
  launch : Launch
  /-- How other programs are started. -/
  starter : Starter
  /-- The script. -/
  script : Script

/-- What a running script knows. -/
structure State where
  /-- What the names of the script stand for. -/
  globals : Std.HashMap Octets Slot := {}
  /-- What the names in the calls of functions stand for, the latest call first. -/
  calls : List (List (Octets × Slot)) := []
  /-- The arrays, by number. -/
  arrays : Std.HashMap Nat (Table Value) := {}
  /-- The number for the next array. -/
  nextArray : Nat := 0
  /-- The record. -/
  record : Octets := ""
  /-- Its fields. -/
  fields : Array Value := #[]
  /-- Whether the record has been split into them. -/
  isSplit : Bool := true
  /-- What has not been written to the usual output. -/
  pending : ByteArray := .empty
  /-- What is written; the latest one comes first. -/
  outputs : List Output := []
  /-- What is read. -/
  inputs : List Input := []
  /-- The file from which records come. -/
  main : Option Source := none
  /-- The number of the next argument. -/
  nextArgument : Nat := 1
  /-- Whether there has been a file among the arguments. -/
  hadFile : Bool := false
  /-- Whether there are no more records. -/
  isOver : Bool := false
  /-- Whether the ranges of rules have started. -/
  ranges : Array Bool := #[]
  /-- The status at the end. -/
  status : Nat := 0
  /-- The number from which the numbers by chance started. -/
  seed : Floating := .zero
  /-- The number from which the next one comes. -/
  chance : Nat := 1

/-- Why the usual order of statements is left. -/
inductive Leave
  /-- For the next record. -/
  | next
  /-- For the next file. -/
  | nextFile
  /-- For the end of the script. -/
  | exit
  /-- For the end of a loop. -/
  | break
  /-- For the next turn of a loop. -/
  | continue
  /-- For the end of a function. -/
  | return (value : Value)
  /-- Because of a mistake. -/
  | mistake
  deriving Repr, DecidableEq

/-- What runs a script. -/
abbrev Runner (α : Type) :=
  ExceptT Leave (StateT State Act) α

namespace Runner

/-- Ask the host for something. -/
def ask (call : Call) : Runner call.Answer :=
  Act.call call

/-! ## Variables -/

/-- What a name stands for in the call of a number, or in the script. -/
def slotIn (call : Option Nat) (name : Octets) : Runner Slot := do
  let state ← get
  match call with
  | none => pure (state.globals.getD name (.value .unset))
  | some number =>
      let names := (state.calls.reverse)[number]?.getD []
      pure ((names.lookup name).getD (.value .unset))

/-- Say what a name stands for in the call of a number, or in the script. -/
def setSlotIn (call : Option Nat) (name : Octets) (slot : Slot) : Runner Unit :=
  modify fun state =>
    match call with
    | none => { state with globals := state.globals.insert name slot }
    | some number =>
        let place := state.calls.length - 1 - number
        { state with
          calls := state.calls.modify place fun names =>
            names.map fun (other, old) => (other, if other == name then slot else old) }

/-- The call in which a name has a meaning, or none for the script. -/
def homeOf (name : Octets) : Runner (Option Nat) := do
  let calls := (← get).calls
  match calls with
  | names :: outer => pure (if (names.lookup name).isSome then some outer.length else none)
  | [] => pure none

/-- A value in the script, whatever names mean in a call. -/
def global (name : Octets) : Runner Value := do
  match (← get).globals.getD name (.value .unset) with
  | .value value => pure value
  | _ => pure .unset

/-- Give a value to a name of the script. -/
def setGlobal (name : Octets) (value : Value) : Runner Unit :=
  setSlotIn none name (.value value)

/-- The format for numbers with fractions. -/
def conversion : Runner Octets := do
  pure ((← global "CONVFMT").toText "%.6g")

/-- The text of a value. -/
def textOf (value : Value) : Runner Octets := do
  match value with
  | .number _ => pure (value.toText (← conversion))
  | _ => pure (value.toText "")

/-- The text of a variable of the script. -/
def globalText (name : Octets) : Runner Octets := do
  textOf (← global name)

/-- The whole number of a variable of the script. -/
def globalNumber (name : Octets) : Runner Int := do
  pure (Value.wholeOf (← global name).toNumber)

/-- Make an array. -/
def freshArray : Runner Nat := do
  let number := (← get).nextArray
  modify fun state =>
    { state with nextArray := number + 1, arrays := state.arrays.insert number {} }
  pure number

/-- The number of the array that a name stands for in a call; the number bounds the calls. -/
def arrayIn : Nat -> Option Nat -> Octets -> Runner Nat
  | 0, _, _ => freshArray
  | fuel + 1, call, name => do
      match ← slotIn call name with
      | .array number => pure number
      | .outer other origin => do
          let number ← arrayIn fuel other origin
          setSlotIn call name (.array number)
          pure number
      | .value _ => do
          let number ← freshArray
          setSlotIn call name (.array number)
          pure number

/-- The number of the array that a name stands for. -/
def arrayOf (name : Octets) : Runner Nat := do
  arrayIn ((← get).calls.length + 2) (← homeOf name) name

/-- An array. -/
def table (number : Nat) : Runner (Table Value) := do
  pure ((← get).arrays.getD number {})

/-- Replace an array. -/
def setTable (number : Nat) (table : Table Value) : Runner Unit :=
  modify fun state => { state with arrays := state.arrays.insert number table }

/-! ## Output -/

/-- Give up because of something. -/
def giveUp (setting : Setting) (text : Octets) : Runner α := do
  warn setting.launch.name text
  modify fun state => { state with status := 2 }
  throw .mistake

/-- Give up because of a mistake of the script. -/
def fault (setting : Setting) (text : Octets) : Runner α := do
  let file ← globalText "FILENAME"
  let place ← globalNumber "FNR"
  let total ← globalNumber "NR"
  giveUp setting
    (s!"run time error: {text}\n\tFILENAME=\x22{file}\x22 " ++ s!"FNR={place} NR={total}")

/-- Write what has not been written to the usual output. -/
def flushMain (setting : Setting) : Runner Unit := do
  let state ← get
  set { state with pending := .empty }
  if !state.pending.isEmpty then
    match ← ask (.write 1 state.pending) with
    | .ok () => pure ()
    | .error fault =>
        giveUp setting s!"close failed on file \x22/dev/stdout\x22 ({fault.text})"

/-- Write what has not been written to an output. -/
def flushOutput (output : Output) : Runner Unit := do
  if !output.pending.isEmpty then
    let _ ← ask (.write output.descriptor output.pending)

/-- Write all that has not been written. -/
def flushAll (setting : Setting) : Runner Unit := do
  flushMain setting
  let outputs := (← get).outputs
  for output in outputs do
    flushOutput output
  modify fun state =>
    { state with outputs := state.outputs.map fun output => { output with pending := .empty } }

/-- Run a command of the shell in a copy of the process, with one of its ends of a pipe. -/
def startCommand
    (setting : Setting)
    (command : Octets)
    (writes : Bool) : Runner (Nat × Nat) := do
  let outputs := (← get).outputs
  let (reading, writing) ← ask .pipe
  let (ours, theirs, place) := if writes then (writing, reading, 0) else (reading, writing, 1)
  match ← ask .fork with
  | some child => do
      let _ ← ask (.close theirs)
      pure (ours, child)
  | none => do
      let _ ← ask (.assign theirs place)
      let _ ← ask (.close theirs)
      let _ ← ask (.close ours)
      for output in outputs do
        if output.child.isSome then
          let _ ← ask (.close output.descriptor)
      let fault ← setting.starter "/bin/sh"
        { name := "/bin/sh", args := ["-c", command], environment := setting.launch.environment }
      warn "/bin/sh" fault.text
      Act.exit 127

/-- The output of a name, which is opened if need be. -/
def outputFor
    (setting : Setting)
    (how : Redirection)
    (name : Octets) : Runner Output := do
  let state ← get
  let isSame (output : Output) : Bool :=
    output.name == name && (output.how == .command) == (how == .command)
  match state.outputs.find? isSame with
  | some output => do
      let others := state.outputs.filter (!isSame ·)
      set { state with outputs := output :: others }
      pure output
  | none => do
      let output : Output ←
        match how with
        | .command => do
            flushAll setting
            let (descriptor, child) ← startCommand setting name true
            pure { name, how, descriptor, child := some child }
        | _ => do
            let purpose : Purpose := if how == .appending then .appending else .writing
            match ← ask (.open name purpose) with
            | .ok descriptor => pure { name, how, descriptor }
            | .error fault =>
                giveUp setting s!"cannot open \x22{name}\x22 for output ({fault.text})"
      modify fun state => { state with outputs := output :: state.outputs }
      pure output

/-- Write bytes to the usual output. -/
def writeMain (setting : Setting) (bytes : ByteArray) : Runner Unit := do
  modify fun state => { state with pending := state.pending ++ bytes }
  if bufferSize ≤ (← get).pending.size then flushMain setting

/-- Write a text, perhaps to a file or a command. -/
def write
    (setting : Setting)
    (target : Option (Redirection × Octets))
    (text : Octets) : Runner Unit := do
  let bytes := Octets.toBytes text
  match target with
  | none => writeMain setting bytes
  | some (how, name) =>
      if name == "/dev/stdout" && how != .command then writeMain setting bytes
      else if name == "/dev/stderr" && how != .command then do
        let _ ← ask (.write 2 bytes)
      else do
        let output ← outputFor setting how name
        let pending := output.pending ++ bytes
        let isFull : Bool := bufferSize ≤ pending.size
        if isFull then
          let _ ← ask (.write output.descriptor pending)
        let after : Output := { output with pending := if isFull then .empty else pending }
        modify fun state => { state with outputs := after :: state.outputs.drop 1 }

/-- The number that says how a command has ended. -/
def endingNumber : Ending -> Nat
  | .exited status => status
  | .killed signal => 256 + signal.number
  | .unstarted _ => 127

/-- Close an output; the result says how its command has ended. -/
def closeOutput (output : Output) : Runner Nat := do
  flushOutput output
  let _ ← ask (.close output.descriptor)
  modify fun state =>
    { state with
      outputs := state.outputs.filter fun other =>
        other.name != output.name || other.how != output.how }
  match output.child with
  | some child => do
      let ending ← (awaitChild child manyTurns : Act Ending)
      pure (endingNumber ending)
  | none => pure 0

/-- Close an input; the result says how its command has ended. -/
def closeInput (input : Input) : Runner Nat := do
  let _ ← ask (.close input.source.descriptor)
  modify fun state =>
    { state with inputs := state.inputs.filter fun other => other.name != input.name }
  match input.child with
  | some child => do
      let ending ← (awaitChild child manyTurns : Act Ending)
      pure (endingNumber ending)
  | none => pure 0

/-- Close everything of a name. -/
def close (setting : Setting) (name : Octets) : Runner Value := do
  let state ← get
  let outputs := state.outputs.filter fun output => output.name == name
  let inputs := state.inputs.filter fun input => input.name == name
  if outputs.isEmpty && inputs.isEmpty then
    if name == "/dev/stdout" then do
      flushMain setting
      pure (.ofNat 0)
    else pure (.number (Floating.ofInt (-1)))
  else do
    if outputs.any fun output => output.child.isSome then flushMain setting
    let written ← outputs.mapM closeOutput
    let read ← inputs.mapM closeInput
    pure (.ofNat ((written ++ read).foldl max 0))

/-- Close all outputs at the end. -/
def closeAll (setting : Setting) : Runner Unit := do
  let outputs := (← get).outputs
  for output in outputs do
    let _ ← closeOutput output
  flushMain setting

/-! ## The record -/

/-- What separates fields. -/
def separator (setting : Setting) : Runner Separator := do
  match Separator.ofText (← globalText "FS") with
  | .error reason => fault setting reason
  | .ok separator => pure separator

/-- Split the record into fields, if that has not been done. -/
def ensureSplit (setting : Setting) : Runner Unit := do
  let state ← get
  if !state.isSplit then
    let separator ← separator setting
    let fields := (separator.split state.record).map Value.input
    set { state with fields := fields.toArray, isSplit := true }

/-- Replace the record. -/
def setRecord (text : Octets) : Runner Unit :=
  modify fun state => { state with record := text, fields := #[], isSplit := false }

/-- Make the record from its fields. -/
def joinFields : Runner Unit := do
  let gap ← globalText "OFS"
  let format ← conversion
  modify fun state =>
    { state with
      record := String.intercalate gap (state.fields.toList.map fun value => value.toText format) }

/-- A field. -/
def field (setting : Setting) (place : Nat) : Runner Value := do
  if place = 0 then pure (.input (← get).record)
  else do
    ensureSplit setting
    pure ((← get).fields.getD (place - 1) (.text ""))

/-- The fields, and empty ones up to a number. -/
def padded (fields : Array Value) (count : Nat) : Array Value :=
  fields ++ Array.replicate (count - fields.size) (.text "")

/-- Give a value to a field. -/
def setField
    (setting : Setting)
    (place : Nat)
    (value : Value) : Runner Unit := do
  if place = 0 then setRecord (← textOf value)
  else do
    ensureSplit setting
    modify fun state =>
      { state with fields := (padded state.fields place).set! (place - 1) value }
    joinFields

/-- Say how many fields there are. -/
def setFieldCount (setting : Setting) (count : Int) : Runner Unit := do
  if count < 0 then fault setting "negative value assigned to NF"
  ensureSplit setting
  let count := count.toNat
  modify fun state => { state with fields := (padded state.fields count).extract 0 count }
  joinFields

/-! ## Names -/

/-- The value of a name. -/
def valueOf (setting : Setting) (name : Octets) : Runner Value := do
  match ← homeOf name with
  | some call => do
      match ← slotIn (some call) name with
      | .value value => pure value
      | _ => pure .unset
  | none =>
      if name == "NF" then do
        ensureSplit setting
        pure (.ofNat (← get).fields.size)
      else global name

/-- Give a value to a name. -/
def setVariable
    (setting : Setting)
    (name : Octets)
    (value : Value) : Runner Unit := do
  match ← homeOf name with
  | some call => setSlotIn (some call) name (.value value)
  | none =>
      if name == "NF" then setFieldCount setting (Value.wholeOf value.toNumber)
      else do
        if name == "FS" || name == "RS" then ensureSplit setting
        setGlobal name value

/-! ## Input -/

/-- The bytes that are read at once. -/
def readSize : Nat := 4096

/-- A record from a source, and the source after it. -/
def recordFrom (setting : Setting) (source : Source) : Runner (Option Octets × Source) := do
  let orGiveUp {α : Type} (found : Except Fault α) : Runner α :=
    match found with
    | .ok value => pure value
    | .error fault => giveUp setting s!"read error ({fault.text})"
  let ending ← globalText "RS"
  match ending.toList with
  | [] => do
      let source ← orGiveUp (← (source.skip readSize 10 manyTurns : Act _))
      let gap : Regex := .times 2 none (.char '\n')
      let (piece, source) ← orGiveUp (← (source.piece readSize gap manyTurns : Act _))
      let trim (text : Octets) : Octets :=
        if text.endsWith "\n" then String.ofList text.toList.dropLast else text
      pure (piece.map trim, source)
  | [c] => do
      let byte := UInt8.ofNat c.toNat
      let (line, source) ← orGiveUp (← (source.line readSize byte manyTurns : Act _))
      pure (line.map (·.text), source)
  | _ =>
      match Pattern.read ending with
      | .error reason => fault setting reason
      | .ok pattern => do
          let found ← (source.piece readSize pattern.regex manyTurns : Act _)
          orGiveUp found

/-- The name and the value that an argument assigns, if it does. -/
def assignment? (argument : Octets) : Option (Octets × Octets) :=
  let chars := argument.toList
  let name := chars.takeWhile Scan.isInName
  match chars.drop name.length with
  | '=' :: value =>
      if name.head?.any Scan.startsName then some (String.ofList name, String.ofList value)
      else none
  | _ => none

/-- A text with escapes replaced. -/
def unescaped (text : Octets) : Octets :=
  match Scan.textOn (text.length + 2) [] 0 (text.toList ++ ['"']) with
  | some (chars, _, []) => String.ofList chars
  | _ => text

/-- Assign what an argument says. -/
def assign (setting : Setting) (name value : Octets) : Runner Unit :=
  setVariable setting name (.input (unescaped value))

/-- Open a file of records. -/
def openMain (setting : Setting) (name : Octets) : Runner Unit := do
  let opened ←
    if name == "-" || name == "/dev/stdin" then pure (.ok 0) else ask (.open name .reading)
  match opened with
  | .error fault => giveUp setting s!"cannot open \x22{name}\x22 ({fault.text})"
  | .ok descriptor => do
      setGlobal "FILENAME" (.text name)
      setGlobal "FNR" (.ofNat 0)
      modify fun state => { state with main := some { descriptor }, hadFile := true }

/-- Go to the next file among the arguments; the result says whether there is one. -/
def openNext (setting : Setting) : Nat -> Runner Bool
  | 0 => pure false
  | fuel + 1 => do
      let state ← get
      let count ← globalNumber "ARGC"
      if count ≤ state.nextArgument then
        if state.hadFile then pure false
        else do
          openMain setting "-"
          pure true
      else do
        set { state with nextArgument := state.nextArgument + 1 }
        let number ← arrayIn 1 none "ARGV"
        let arguments ← table number
        let argument ← textOf ((arguments.values[toString state.nextArgument]?).getD .unset)
        match assignment? argument with
        | some (name, value) => do
            assign setting name value
            openNext setting fuel
        | none =>
            if argument.isEmpty then openNext setting fuel
            else do
              openMain setting argument
              pure true

/-- Leave the file from which records come. -/
def closeMain : Runner Unit := do
  match (← get).main with
  | some source => do
      if source.descriptor != 0 then
        let _ ← ask (.close source.descriptor)
      modify fun state => { state with main := none }
  | none => pure ()

/-- The next record, if there is one; the number bounds the files. -/
def nextRecord (setting : Setting) : Nat -> Runner (Option Octets)
  | 0 => pure none
  | fuel + 1 => do
      let state ← get
      if state.isOver then pure none
      else
        match state.main with
        | none => do
            if ← openNext setting manyTurns then nextRecord setting fuel
            else do
              modify fun state => { state with isOver := true }
              pure none
        | some source => do
            let (record, source) ← recordFrom setting source
            modify fun state => { state with main := some source }
            match record with
            | some text => do
                for name in ["NR", "FNR"] do
                  let count := (← global name).toNumber
                  setGlobal name (.number (count.add .one))
                pure (some text)
            | none => do
                closeMain
                nextRecord setting fuel

/-- The input of a name, which is opened if need be. -/
def inputFor
    (setting : Setting)
    (isCommand : Bool)
    (name : Octets) : Runner (Option Input) := do
  let found := (← get).inputs.find? fun input =>
    input.name == name && input.child.isSome == isCommand
  match found with
  | some input => pure (some input)
  | none => do
      let opened : Option Input ←
        if isCommand then do
          flushAll setting
          let (descriptor, child) ← startCommand setting name false
          pure (some { name, source := { descriptor }, child := some child })
        else if name == "-" || name == "/dev/stdin" then
          pure (some { name, source := { descriptor := 0 } })
        else
          match ← ask (.open name .reading) with
          | .ok descriptor => pure (some { name, source := { descriptor } })
          | .error _ => pure none
      match opened with
      | some input => modify fun state => { state with inputs := input :: state.inputs }
      | none => pure ()
      pure opened

/-- A record from a file or a command: it, or whether there is no such file. -/
def readFrom
    (setting : Setting)
    (isCommand : Bool)
    (name : Octets) : Runner (Except Unit (Option Octets)) := do
  match ← inputFor setting isCommand name with
  | none => pure (.error ())
  | some input => do
      let (record, source) ← recordFrom setting input.source
      let after : Input := { input with source }
      modify fun state =>
        { state with
          inputs := state.inputs.map fun other =>
            if other.name == name && other.child == input.child then after else other }
      pure (.ok record)

end Runner
end Records
end Programs
end CameraFleet
