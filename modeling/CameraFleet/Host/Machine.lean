import CameraFleet.Host.Act

/-!
# A machine in memory

Processes that share files, pipes and a clock. A process that asks for
something it can have at once goes on; else it waits. Time passes when every
process waits, from one awaited time to the next; processes that never wait use
up a millisecond for a number of steps.

One process is the first one. What it and its descendants write to the
connections with which it was born is kept, up to a limit; `Machine.hangUp` cuts
these connections and asks the first process to end.

`Machine.step?` is the single step of this.
-/

namespace CameraFleet
namespace Host

/-- One of the two outputs with which the first process is born. -/
inductive Channel
  | out
  | err
  deriving Repr, DecidableEq

/-- What stands behind an open file. -/
inductive Target
  /-- An input on which nothing ever comes. -/
  | silence
  /-- An output of the first process. -/
  | channel (channel : Channel)
  /-- A pipe, by its number. -/
  | pipe (number : Nat)
  /-- A file, by its number. -/
  | file (number : Nat)
  /-- A device. -/
  | device (device : Device)
  /-- A directory. -/
  | directory
  /-- A program. -/
  | program
  deriving Repr, DecidableEq

/-- An open file. -/
structure OpenFile where
  /-- What stands behind it. -/
  target : Target
  /-- Whether it can be read. -/
  reads : Bool
  /-- Whether it can be written. -/
  writes : Bool
  /-- Whether all writing happens at the end. -/
  appends : Bool := false
  /-- Where reading and writing go on. -/
  position : Nat := 0
  deriving Repr, DecidableEq

/-- A process. -/
structure Process where
  /-- Its number. -/
  number : Nat
  /-- The number of its parent. -/
  parent : Nat
  /-- The number of its group. -/
  group : Nat
  /-- What it is going to do; it has a result only if it cannot be started. -/
  act : Act Fault
  /-- Its descriptors, each with the number of the open file. -/
  descriptors : List (Nat × Nat) := []
  /-- Its directory. -/
  here : Path := []
  /-- The rights that the files which it makes do not get. -/
  mask : Nat := 18
  /-- The limits of resources that it has replaced. -/
  limits : List (Resource × Limit) := []
  /-- The arrangements that it has made for signals. -/
  dispositions : List (Signal × Disposition) := []
  /-- The signals that it has caught. -/
  caught : List Signal := []
  /-- Whether a signal has stopped it. -/
  stopped : Bool := false

/-- A process that has ended, until its parent learns of it. -/
structure Zombie where
  /-- Its number. -/
  number : Nat
  /-- The number of its parent. -/
  parent : Nat
  /-- How it has ended. -/
  ending : Ending
  deriving Repr, DecidableEq

/-- A machine with everything that runs on it. -/
structure Machine where
  /-- The clock, in milliseconds. -/
  now : Nat := 0
  /-- The steps since the clock has last moved. -/
  work : Nat := 0
  /-- The files. -/
  files : Files
  /-- The processes, in the order in which they may go on. -/
  processes : List Process := []
  /-- The processes that have ended, oldest first. -/
  zombies : List Zombie := []
  /-- The open files, by number. -/
  opened : List (Nat × OpenFile) := []
  /-- What the pipes hold, by number. -/
  pipes : List (Nat × ByteArray) := []
  /-- The number for the next open file, pipe or process. -/
  next : Nat := 2
  /-- What has been written to the output, and its length. -/
  out : Array ByteArray := #[]
  /-- The number of bytes written to the output. -/
  outSize : Nat := 0
  /-- What has been written to the error output. -/
  err : Array ByteArray := #[]
  /-- The number of bytes written to the error output. -/
  errSize : Nat := 0
  /-- Whether anybody listens to the two outputs. -/
  heard : Bool := true
  /-- How the first process has ended, once it has. -/
  ending : Option Ending := none

namespace Machine

/-- The number of the first process. -/
def first : Nat := 1

/-- The date when a machine is started, in milliseconds. -/
def epoch : Int := 1767225600000

/-- The date, in milliseconds. -/
def date (machine : Machine) : Int :=
  epoch + machine.now

/-- The bytes that a pipe can hold. -/
def pipeRoom : Nat := 65536

/-- The steps that take a millisecond. -/
def stepsPerMillisecond : Nat := 1000

/-- The process of a number. -/
def process? (machine : Machine) (number : Nat) : Option Process :=
  machine.processes.find? (·.number == number)

/-- Change the process of a number. -/
def modify
    (machine : Machine)
    (number : Nat)
    (change : Process -> Process) : Machine :=
  { machine with
    processes := machine.processes.map fun process =>
      if process.number == number then change process else process }

/-- Forget the open files that no process refers to, and the pipes that lead nowhere. -/
def tidy (machine : Machine) : Machine :=
  let opened := machine.opened.filter fun (file, _) =>
    machine.processes.any fun process => process.descriptors.any (·.2 == file)
  let pipes := machine.pipes.filter fun (number, _) =>
    opened.any fun (_, file) => file.target == .pipe number
  { machine with opened, pipes }

/-- A process ends; its children lose their parent. -/
def finish
    (machine : Machine)
    (process : Process)
    (ending : Ending) : Machine :=
  let remaining := machine.processes.filterMap fun other =>
    if other.number == process.number then none
    else if other.parent == process.number then some { other with parent := 0 }
    else some other
  let zombies := machine.zombies.filter (·.parent != process.number)
  let left := { machine with processes := remaining }
  if process.number == first then ({ left with zombies, ending := some ending }).tidy
  else if remaining.any (·.number == process.parent) then
    let zombie : Zombie := ⟨process.number, process.parent, ending⟩
    ({ left with zombies := zombies ++ [zombie] }).tidy
  else ({ left with zombies }).tidy

/-- What a process does about a signal. -/
def dispositionOf (process : Process) (signal : Signal) : Disposition :=
  if signal.mayBeCaught then (process.dispositions.lookup signal).getD .usual else .usual

/-- A signal reaches a process. -/
def deliver
    (machine : Machine)
    (process : Process)
    (signal : Signal) : Machine :=
  match dispositionOf process signal with
  | .ignored => machine
  | .caught =>
      machine.modify process.number fun process =>
        { process with caught := process.caught ++ [signal] }
  | .usual =>
      match signal.effect with
      | .ends =>
          if process.stopped && signal != .kill then machine
          else machine.finish process (.killed signal)
      | .stops => machine.modify process.number ({ · with stopped := true })
      | .nothing =>
          if signal.number == 18 then machine.modify process.number ({ · with stopped := false })
          else machine

/-- The open file of a descriptor, with its number. -/
def openFile?
    (machine : Machine)
    (process : Process)
    (descriptor : Nat) : Option (Nat × OpenFile) :=
  (process.descriptors.lookup descriptor).bind fun file =>
    (machine.opened.lookup file).map fun opened => (file, opened)

/-- Replace an open file. -/
def setOpen
    (machine : Machine)
    (number : Nat)
    (file : OpenFile) : Machine :=
  { machine with
    opened := machine.opened.map fun (other, old) =>
      if other == number then (other, file) else (other, old) }

/-- The content of a pipe. -/
def pipeContent (machine : Machine) (number : Nat) : ByteArray :=
  (machine.pipes.lookup number).getD .empty

/-- Replace the content of a pipe. -/
def setPipe
    (machine : Machine)
    (number : Nat)
    (bytes : ByteArray) : Machine :=
  { machine with
    pipes := machine.pipes.map fun (other, old) =>
      if other == number then (other, bytes) else (other, old) }

/-- Whether anybody could still read a pipe. -/
def hasReader (machine : Machine) (pipe : Nat) : Bool :=
  machine.opened.any fun (_, file) => file.reads && file.target == .pipe pipe

/-- Whether anybody could still write to a pipe. -/
def hasWriter (machine : Machine) (pipe : Nat) : Bool :=
  machine.opened.any fun (_, file) => file.writes && file.target == .pipe pipe

/-- The least number from a bound on that is no descriptor of a process. -/
def freeDescriptor (process : Process) (lowest : Nat) : Nat :=
  let taken := process.descriptors.map (·.1)
  ((List.range (taken.length + 1)).map (lowest + ·)).find? (!taken.contains ·) |>.getD lowest

/-- The greatest descriptor that a process may have, and one more. -/
def descriptorLimit : Nat := 1024

/-- What becomes of a call. -/
inductive Attempt (call : Call)
  /-- There is an answer. -/
  | answer (value : call.Answer) (machine : Machine)
  /-- The process has to wait. -/
  | wait
  /-- Something has happened, but there is no answer yet. -/
  | progress (machine : Machine)

/-- Give a process a descriptor of an open file that is new. -/
def install
    (machine : Machine)
    (process : Process)
    (file : OpenFile) : Nat × Machine :=
  let descriptor := freeDescriptor process 0
  let number := machine.next
  let machine :=
    { machine with opened := (number, file) :: machine.opened, next := number + 1 }
  (descriptor,
    machine.modify process.number fun process =>
      { process with descriptors := (descriptor, number) :: process.descriptors })

/-- Zeros, as many as asked for. -/
def zeros (count : Nat) : ByteArray :=
  ⟨Array.replicate count 0⟩

/-- The most bytes that are read or written at once. -/
def portion : Nat := 131072

/-- Read from a descriptor. -/
def read
    (machine : Machine)
    (process : Process)
    (descriptor most : Nat) : Option (Except Fault ByteArray × Machine) :=
  match machine.openFile? process descriptor with
  | none => some (.error .badDescriptor, machine)
  | some (number, file) =>
      if !file.reads then some (.error .badDescriptor, machine)
      else
        match file.target with
        | .silence | .channel _ => none
        | .directory => some (.error .isDirectory, machine)
        | .device .null => some (.ok .empty, machine)
        | .device _ => some (.ok (zeros (min most portion)), machine)
        | .program =>
            let bytes := Files.programStart.extract file.position (file.position + most)
            some (.ok bytes,
              machine.setOpen number { file with position := file.position + bytes.size })
        | .file content =>
            let bytes := (machine.files.content content).extract file.position
              (file.position + most)
            some (.ok bytes,
              machine.setOpen number { file with position := file.position + bytes.size })
        | .pipe pipe =>
            let content := machine.pipeContent pipe
            if 0 < content.size then
              some (.ok (content.extract 0 most),
                machine.setPipe pipe (content.extract most content.size))
            else if machine.hasWriter pipe then none
            else some (.ok .empty, machine)

/-- Nobody reads what a process writes: the signal for this reaches it, and the writing fails. -/
def breakPipe
    (machine : Machine)
    (process : Process)
    (descriptor : Nat)
    (bytes : ByteArray) : Attempt (.write descriptor bytes) :=
  .answer (.error .brokenPipe) (machine.deliver process .pipe)

/-- A file's content after some bytes have been written at a position. -/
def overwrite
    (content : ByteArray)
    (position : Nat)
    (bytes : ByteArray) : ByteArray :=
  let before := content.extract 0 position ++ zeros (position - content.size)
  before ++ bytes ++ content.extract (position + bytes.size) content.size

/-- Write to a descriptor. -/
def write
    (machine : Machine)
    (process : Process)
    (descriptor : Nat)
    (bytes : ByteArray) : Attempt (.write descriptor bytes) :=
  match machine.openFile? process descriptor with
  | none => .answer (.error .badDescriptor) machine
  | some (number, file) =>
      if !file.writes then .answer (.error .badDescriptor) machine
      else
        match file.target with
        | .silence | .program | .directory => .answer (.error .badDescriptor) machine
        | .device .full =>
            .answer (if bytes.isEmpty then .ok () else .error .noSpace) machine
        | .device _ => .answer (.ok ()) machine
        | .channel channel =>
            if bytes.isEmpty then .answer (.ok ()) machine
            else if !machine.heard then machine.breakPipe process descriptor bytes
            else
              match channel with
              | .out =>
                  .answer (.ok ())
                    { machine with
                      out := machine.out.push bytes, outSize := machine.outSize + bytes.size }
              | .err =>
                  .answer (.ok ())
                    { machine with
                      err := machine.err.push bytes, errSize := machine.errSize + bytes.size }
        | .file content =>
            let old := machine.files.content content
            let position := if file.appends then old.size else file.position
            let files :=
              machine.files.setContent content (overwrite old position bytes) machine.date
            .answer (.ok ())
              (({ machine with files }).setOpen number
                { file with position := position + bytes.size })
        | .pipe pipe =>
            if bytes.isEmpty then .answer (.ok ()) machine
            else if !machine.hasReader pipe then machine.breakPipe process descriptor bytes
            else
              let content := machine.pipeContent pipe
              let room := pipeRoom - content.size
              if bytes.size ≤ room then .answer (.ok ()) (machine.setPipe pipe (content ++ bytes))
              else if room = 0 then .wait
              else
                let filled := machine.setPipe pipe (content ++ bytes.extract 0 room)
                let rest := bytes.extract room bytes.size
                .progress (filled.modify process.number fun process =>
                  match process.act with
                  | .ask (.write descriptor _) next =>
                      { process with act := .ask (.write descriptor rest) next }
                  | _ => process)

/-- The descriptor that a path stands for, if it is the path of one. -/
def descriptorOfPath? (path : Octets) : Option Nat :=
  let rest (start : String) : Option Nat :=
    if path.startsWith start then (String.ofList (path.toList.drop start.length)).toNat? else none
  match [("/dev/stdin", 0), ("/dev/stdout", 1), ("/dev/stderr", 2)].lookup path with
  | some descriptor => some descriptor
  | none => (rest "/dev/fd/").or (rest "/proc/self/fd/")

/-- An open file for what stands at a path, as its purpose wants it. -/
def opening
    (purpose : Purpose)
    (target : Target) : OpenFile :=
  { target
    reads := purpose == .reading || purpose == .both
    writes := purpose != .reading
    appends := purpose == .appending }

/-- Open what stands at a place of the tree, by its number. -/
def openNode
    (machine : Machine)
    (process : Process)
    (purpose : Purpose)
    (number : Nat) : Except Fault Nat × Machine :=
  let install (machine : Machine) (target : Target) : Except Fault Nat × Machine :=
    let (descriptor, machine) := machine.install process (opening purpose target)
    (.ok descriptor, machine)
  match (machine.files.node number).entry with
  | .directory =>
      if purpose == .reading then install machine .directory else (.error .isDirectory, machine)
  | .file =>
      let files :=
        if purpose == .writing then machine.files.setContent number .empty machine.date
        else machine.files
      install { machine with files } (.file number)
  | .device device => install machine (.device device)
  | .program =>
      if purpose == .reading then install machine .program else (.error .denied, machine)
  | .unavailable | .link _ | .fifo => (.error .noDevice, machine)

/-- Open the file at a path. -/
def openPath
    (machine : Machine)
    (process : Process)
    (path : Octets)
    (purpose : Purpose) : Except Fault Nat × Machine :=
  match descriptorOfPath? path with
  | some descriptor =>
      match machine.openFile? process descriptor with
      | none => (.error .missing, machine)
      | some (_, file) =>
          match file.target with
          | .silence | .channel _ => (.error .noDevice, machine)
          | .file number => machine.openNode process purpose number
          | target =>
              let (descriptor, machine) := machine.install process (opening purpose target)
              (.ok descriptor, machine)
  | none =>
      match machine.files.locate process.here path true with
      | .error fault => (.error fault, machine)
      | .ok (place, some entry) =>
          if purpose == .making && entry != .device .null then (.error .occupied, machine)
          else
            match machine.files.entries.lookup place with
            | some number => machine.openNode process purpose number
            | none => (.error .missing, machine)
      | .ok (place, none) =>
          if purpose == .reading then (.error .missing, machine)
          else if path.endsWith "/" then (.error .isDirectory, machine)
          else
            let number := machine.files.next
            let node : Node :=
              { entry := .file, rights := 438 - (438 &&& process.mask), changed := machine.date }
            let files := (machine.files.put place node).touchAbove place machine.date
            let (descriptor, machine) :=
              { machine with files }.install process (opening purpose (.file number))
            (.ok descriptor, machine)

/-- Close a descriptor. -/
def close
    (machine : Machine)
    (process : Process)
    (descriptor : Nat) : Except Fault Unit × Machine :=
  if process.descriptors.any (·.1 == descriptor) then
    (.ok (),
      (machine.modify process.number fun process =>
        { process with
          descriptors := process.descriptors.filter (·.1 != descriptor) }).tidy)
  else (.error .badDescriptor, machine)

/-- Let a descriptor stand for the open file of another one. -/
def assign
    (machine : Machine)
    (process : Process)
    (descriptor target : Nat) : Except Fault Unit × Machine :=
  match process.descriptors.lookup descriptor with
  | none => (.error .badDescriptor, machine)
  | some file =>
      if descriptorLimit ≤ target then (.error .badDescriptor, machine)
      else if descriptor == target then (.ok (), machine)
      else
        (.ok (),
          (machine.modify process.number fun process =>
            { process with
              descriptors :=
                (target, file) :: process.descriptors.filter (·.1 != target) }).tidy)

/-- What can be seen of a node. -/
def sightOfNode (machine : Machine) (number : Nat) : Sight :=
  let node := machine.files.node number
  let size :=
    match node.entry with
    | .directory => 4096
    | .link target => target.length
    | .program => 1
    | _ => node.content.size
  { kind := .entry node.entry, size, rights := node.rights, changed := node.changed
    links := machine.files.linkCount number, number }

/-- What can be seen of an open file. -/
def sightOf (machine : Machine) (file : OpenFile) : Sight :=
  match file.target with
  | .silence | .channel _ => { kind := .connection, rights := 511 }
  | .pipe _ => { kind := .pipe }
  | .file number => machine.sightOfNode number
  | .device device => { kind := .entry (.device device), rights := 438 }
  | .directory => { kind := .entry .directory, rights := 493 }
  | .program => { kind := .entry .program, size := 1, rights := 493 }

/-- What can be seen at a path. -/
def sightAt
    (machine : Machine)
    (process : Process)
    (path : Octets)
    (followLast : Bool) : Except Fault Sight :=
  match descriptorOfPath? path with
  | some descriptor =>
      if !followLast then .ok { kind := .entry (.link ""), rights := 511 }
      else
        match machine.openFile? process descriptor with
        | some (_, file) => .ok (machine.sightOf file)
        | none => .error .missing
  | none => (machine.files.number process.here path followLast).map machine.sightOfNode

/-- A path without a slash at its end. -/
def trimmed (path : Octets) : Octets :=
  let kept := (path.toList.reverse.dropWhile (· == '/')).reverse
  if kept.isEmpty then path else String.ofList kept

/-- Move what stands at a path, with everything below it. -/
def moveFiles
    (files : Files)
    (old new : Path) : Files :=
  let files := files.remove new
  { files with
    entries := files.entries.map fun (path, number) =>
      if old.isPrefixOf path then (new ++ path.drop old.length, number) else (path, number) }

/-- Change the tree of files at a time; new files do not get the rights of a mask. -/
def changeFiles
    (files : Files)
    (here : Path)
    (mask : Nat)
    (time : Int) : Change -> Except Fault Files
  | .remove path => do
      match ← files.find here path false with
      | (_, .directory) => .error .isDirectory
      | (place, _) => pure ((files.remove place).touchAbove place time)
  | .makeDirectory path => do
      match ← files.locate here (trimmed path) false with
      | (_, some _) => .error .occupied
      | (place, none) =>
          let node : Node :=
            { entry := .directory, rights := 511 - (511 &&& mask), changed := time }
          pure ((files.put place node).touchAbove place time)
  | .removeDirectory path => do
      match ← files.find here path true with
      | (place, .directory) =>
          if (files.namesIn place).isEmpty then pure ((files.remove place).touchAbove place time)
          else .error .notEmpty
      | _ => .error .notDirectory
  | .move source target => do
      let (old, entry) ← files.find here source false
      let (new, there) ← files.locate here (trimmed target) false
      match entry, there with
      | .directory, some .directory =>
          if !(files.namesIn new).isEmpty then .error .notEmpty
      | .directory, some _ => .error .notDirectory
      | _, some .directory => .error .isDirectory
      | _, _ => if entry != .directory && target.endsWith "/" then .error .notDirectory
      if old == new then pure files
      else if entry == .directory && old.isPrefixOf new then .error .invalid
      else pure (((moveFiles files old new).touchAbove old time).touchAbove new time)
  | .join source target => do
      let number ← files.number here source false
      match ← files.locate here target false with
      | (_, some _) => .error .occupied
      | (place, none) => pure ((files.join place number).touchAbove place time)
  | .link target path => do
      match ← files.locate here path false with
      | (_, some _) => .error .occupied
      | (place, none) =>
          let node : Node := { entry := .link target, rights := 511, changed := time }
          pure ((files.put place node).touchAbove place time)
  | .makeFifo path => do
      match ← files.locate here path false with
      | (_, some _) => .error .occupied
      | (place, none) =>
          let node : Node := { entry := .fifo, rights := 438 - (438 &&& mask), changed := time }
          pure ((files.put place node).touchAbove place time)
  | .setRights path rights => do
      let number ← files.number here path true
      pure (files.modify number ({ · with rights }))
  | .setTime path time followLast => do
      let number ← files.number here path followLast
      pure (files.modify number ({ · with changed := time }))

/-- Ask about a child, or any. -/
def awaitChild
    (machine : Machine)
    (process : Process)
    (child : Option Nat)
    (patience : Patience) : Option (Awaited × Machine) :=
  let wanted (number parent : Nat) : Bool :=
    parent == process.number && child.all (· == number)
  match machine.zombies.find? fun zombie => wanted zombie.number zombie.parent with
  | some zombie =>
      some (.ended zombie.number zombie.ending,
        { machine with zombies := machine.zombies.filter (·.number != zombie.number) })
  | none =>
      if machine.processes.any fun other => wanted other.number other.parent then
        match patience with
        | .none => some (.notYet, machine)
        | .full => none
        | .untilSignal => if process.caught.isEmpty then none else some (.interrupted, machine)
        | .untilTime time =>
            if !process.caught.isEmpty then some (.interrupted, machine)
            else if time ≤ machine.now then some (.notYet, machine)
            else none
      else some (.childless, machine)

/-- A copy of a process goes on without an answer, the process with the copy's number. -/
def fork
    (machine : Machine)
    (process : Process)
    (next : Option Nat -> Act Fault) : Machine :=
  let copy : Process :=
    { process with
      number := machine.next, parent := process.number, act := next none, caught := [] }
  let machine :=
    machine.modify process.number ({ · with act := next (some copy.number) })
  { machine with processes := machine.processes ++ [copy], next := copy.number + 1 }

/-- Send a signal to a process, which may be the sender. -/
def send
    (machine : Machine)
    (target : Nat)
    (signal : Signal) : Except Fault Unit × Machine :=
  match machine.process? target with
  | some other => (.ok (), machine.deliver other signal)
  | none =>
      if machine.zombies.any (·.number == target) then (.ok (), machine)
      else (.error .noProcess, machine)

/-- Send a signal to all processes of a group. -/
def sendGroup
    (machine : Machine)
    (group : Nat)
    (signal : Signal) : Machine :=
  let members := (machine.processes.filter (·.group == group)).map (·.number)
  members.foldl (fun machine number => (machine.send number signal).2) machine

/-- Try to answer a call of a process. -/
def attempt
    (machine : Machine)
    (process : Process) : (call : Call) -> Attempt call
  | .read descriptor most =>
      match machine.read process descriptor most with
      | some (answer, machine) => .answer answer machine
      | none => .wait
  | .readAlertly descriptor most =>
      match machine.read process descriptor most with
      | some (answer, machine) => .answer answer machine
      | none => if process.caught.isEmpty then .wait else .answer (.error .interrupted) machine
  | .write descriptor bytes => machine.write process descriptor bytes
  | .goBack descriptor count =>
      match machine.openFile? process descriptor with
      | some (number, file) =>
          .answer () (machine.setOpen number { file with position := file.position - count })
      | none => .answer () machine
  | .open path purpose =>
      let (answer, machine) := machine.openPath process path purpose
      .answer answer machine
  | .copy descriptor lowest =>
      match process.descriptors.lookup descriptor with
      | some file =>
          let free := freeDescriptor process lowest
          .answer (.ok free)
            (machine.modify process.number fun process =>
              { process with descriptors := (free, file) :: process.descriptors })
      | none => .answer (.error .badDescriptor) machine
  | .assign descriptor target =>
      let (answer, machine) := machine.assign process descriptor target
      .answer answer machine
  | .close descriptor =>
      let (answer, machine) := machine.close process descriptor
      .answer answer machine
  | .pipe =>
      let number := machine.next
      let machine := { machine with pipes := (number, .empty) :: machine.pipes, next := number + 1 }
      let source : OpenFile := { target := .pipe number, reads := true, writes := false }
      let (reading, machine) := machine.install process source
      match machine.process? process.number with
      | some process =>
          let sink : OpenFile := { target := .pipe number, reads := false, writes := true }
          let (writing, machine) := machine.install process sink
          .answer (reading, writing) machine
      | none => .answer (reading, reading) machine
  | .fork | .exit _ => .wait
  | .await child patience =>
      match machine.awaitChild process child patience with
      | some (answer, machine) => .answer answer machine
      | none => .wait
  | .send target signal =>
      let (answer, machine) := machine.send target signal
      .answer answer machine
  | .sendGroup signal => .answer () (machine.sendGroup process.group signal)
  | .lead => .answer () (machine.modify process.number ({ · with group := process.number }))
  | .probe target =>
      let known := machine.processes.any (·.number == target) ||
        machine.zombies.any (·.number == target)
      .answer known machine
  | .dispose signal disposition =>
      .answer ()
        (machine.modify process.number fun process =>
          { process with
            dispositions :=
              (signal, disposition) :: process.dispositions.filter (·.1 != signal) })
  | .disposition signal => .answer (dispositionOf process signal) machine
  | .caught =>
      if process.caught.isEmpty then .answer [] machine
      else .answer process.caught (machine.modify process.number ({ · with caught := [] }))
  | .sleepUntil time =>
      if time.any (· ≤ machine.now) then .answer () machine else .wait
  | .clock => .answer machine.now machine
  | .date => .answer machine.date machine
  | .mask rights =>
      .answer process.mask
        (match rights with
        | some mask => machine.modify process.number ({ · with mask })
        | none => machine)
  | .limit resource new =>
      let old := (process.limits.lookup resource).getD (Limit.usual resource)
      match new with
      | none => .answer (.ok old) machine
      | some new =>
          match Limit.refusal? old new with
          | some fault => .answer (.error fault) machine
          | none =>
              let others := process.limits.filter (·.1 != resource)
              .answer (.ok old)
                (machine.modify process.number ({ · with limits := (resource, new) :: others }))
  | .here => .answer process.here machine
  | .enter path =>
      match machine.files.find process.here path true with
      | .ok (place, .directory) =>
          .answer (.ok ()) (machine.modify process.number ({ · with here := place }))
      | .ok _ => .answer (.error .notDirectory) machine
      | .error fault => .answer (.error fault) machine
  | .look path followLast => .answer (machine.sightAt process path followLast) machine
  | .resolve path =>
      .answer ((machine.files.find process.here path true).map fun found => Path.text found.1)
        machine
  | .lookAt descriptor =>
      match machine.openFile? process descriptor with
      | some (_, file) => .answer (.ok (machine.sightOf file)) machine
      | none => .answer (.error .badDescriptor) machine
  | .names path =>
      match machine.files.find process.here path true with
      | .ok (place, .directory) => .answer (.ok (machine.files.namesIn place)) machine
      | .ok _ => .answer (.error .notDirectory) machine
      | .error fault => .answer (.error fault) machine
  | .change change =>
      match changeFiles machine.files process.here process.mask machine.date change with
      | .ok files => .answer (.ok ()) { machine with files }
      | .error fault => .answer (.error fault) machine
  | .identity => .answer (process.number, process.parent) machine

/-- Let a process go on, if it can. -/
def goOn? (machine : Machine) (process : Process) : Option Machine :=
  if process.stopped then none
  else
    match process.act with
    | .done fault => some (machine.finish process (.unstarted fault))
    | .ask .fork next => some (machine.fork process next)
    | .ask (.exit status) _ => some (machine.finish process (.exited (status % 256)))
    | .ask call next =>
        match machine.attempt process call with
        | .answer value machine =>
            some (machine.modify process.number ({ · with act := next value }))
        | .progress machine => some machine
        | .wait => none

/-- Let the clock go on when there has been work enough; then another process comes first. -/
def tick (machine : Machine) : Machine :=
  if stepsPerMillisecond ≤ machine.work + 1 then
    { machine with
      now := machine.now + 1, work := 0
      processes := machine.processes.drop 1 ++ machine.processes.take 1 }
  else { machine with work := machine.work + 1 }

/-- Let the first process that can go on do so; none if every process waits. -/
def step? (machine : Machine) : Option Machine :=
  (machine.processes.findSome? machine.goOn?).map tick

/-- The time for which a process waits. -/
def wakingTime? (process : Process) : Option Nat :=
  match process.act with
  | .ask (.sleepUntil time) _ => if process.stopped then none else time
  | .ask (.await _ (.untilTime time)) _ => if process.stopped then none else some time
  | _ => none

/-- The next time for which a process waits. -/
def nextTime? (machine : Machine) : Option Nat :=
  (machine.processes.filterMap wakingTime?).min?

/-- Cut the connections, and send the first process a signal. -/
def hangUp
    (machine : Machine)
    (signal : Signal) : Machine :=
  let cut := { machine with heard := false }
  match cut.process? first with
  | some process => cut.deliver process signal
  | none => cut

/-- Whether a process could still write to one of the two outputs. -/
def mayBeHeard (machine : Machine) : Bool :=
  machine.heard && machine.opened.any fun (_, file) =>
    match file.target with
    | .channel _ => true
    | _ => false

/-- A machine with the first process, which is connected to its three usual descriptors. -/
def start
    (files : Files)
    (here : Path)
    (act : Act Fault) : Machine :=
  { files
    processes :=
      [{ number := first, parent := 0, group := first, act, here
         descriptors := [(0, 0), (1, 1), (2, 2)] }]
    opened :=
      [(0, { target := .silence, reads := true, writes := true }),
        (1, { target := .channel .out, reads := true, writes := true }),
        (2, { target := .channel .err, reads := true, writes := true })]
    next := 3 }

end Machine
end Host
end CameraFleet
