import CameraFleet.Shell.Expansion
import CameraFleet.Shell.Extended.Quoting

/-!
# Rewiring

A redirection lets a descriptor lead elsewhere while a command runs. Before that
the descriptor is kept under a higher number, so that it can be put back.
-/

namespace CameraFleet
namespace Shell

open Host

/-- A redirection whose words have been expanded. -/
inductive Wire
  /-- A descriptor leads to a file. -/
  | file (descriptor : Nat) (use : FileUse) (path : Octets)
  /-- It leads to where another one leads. -/
  | duplicate (descriptor source : Nat)
  /-- It leads nowhere. -/
  | cut (descriptor : Nat)
  /-- It leads to a text that is part of the script. -/
  | document (descriptor number : Nat)
  /-- It leads to a text. -/
  | text (descriptor : Nat) (text : Octets)
  deriving Repr, DecidableEq

/-- A redirection is wrong. -/
def failWire (text : Octets) : Sh α := do
  match (← get).language with
  | .plain => Sh.fail text
  | .extended => do
      Sh.warnBare text
      modify ({ · with status := 1 })
      Sh.jump .mistake

namespace Wire

/-- The descriptor that is led elsewhere. -/
def descriptor : Wire -> Nat
  | .file descriptor _ _ | .duplicate descriptor _ | .cut descriptor | .document descriptor _
  | .text descriptor _ => descriptor

/-- The name of the file that a word means. -/
def fileName
    (capture : Script -> Sh Octets)
    (word : Word) : Sh Octets := do
  match (← get).language with
  | .plain => nameOf capture word
  | .extended => do
      match ← argumentsOf capture word with
      | [name] => pure name
      | _ => failWire s!"{Rendering.word word}: ambiguous redirect"

/-- The output and the error output lead to a file. -/
def outputs (appends : Bool) (name : Octets) : List Wire :=
  [.file 1 (if appends then .append else .output) name, .duplicate 2 1]

/-- The wires of a redirection to another descriptor that a text names. -/
def duplicates
    (descriptor : Nat)
    (target : Word)
    (text : Octets) : Sh (List Wire) := do
  let digits := (text.toList.takeWhile Char.isDigit)
  let number := (String.ofList digits).toNat?
  match (← get).language, number, text.toList.drop digits.length with
  | _, none, ['-'] => pure [.cut descriptor]
  | .extended, some source, [] => pure [.duplicate descriptor source]
  | .extended, some source, ['-'] => pure [.duplicate descriptor source, .cut source]
  | .plain, some source, [] =>
      if digits.length = 1 then pure [.duplicate descriptor source]
      else Sh.fail "Syntax error: Bad fd number"
  | .plain, _, _ => Sh.fail "Syntax error: Bad fd number"
  | .extended, _, _ =>
      if descriptor = 1 && !text.isEmpty then pure (outputs false text)
      else failWire s!"{Rendering.word target}: ambiguous redirect"

/-- Expand the words of a redirection. -/
def ofRedirection
    (capture : Script -> Sh Octets) : Redirection -> Sh (List Wire)
  | .file descriptor use name => do
      pure [.file descriptor use (← fileName capture name)]
  | .document descriptor number => pure [.document descriptor number]
  | .line descriptor line => do
      pure [.text descriptor ((← nameOf capture line) ++ "\n")]
  | .outputs appends name => do
      pure (outputs appends (← fileName capture name))
  | .duplicate descriptor target => do
      duplicates descriptor target (← nameOf capture target)

end Wire

/-- The least number under which descriptors are kept. -/
def keptFrom : Nat := 10

/-- The bytes that certainly fit into a pipe. -/
def certainRoom : Nat := 4096

/-- A descriptor from which some bytes can be read. -/
def openDocument (bytes : ByteArray) : Sh Nat := do
  let (source, sink) ← Sh.call .pipe
  if bytes.size ≤ certainRoom then
    let _ ← Sh.call (.write sink bytes)
  else
    match ← Sh.call .fork with
    | some _ => pure ()
    | none => do
        let _ ← Sh.call (.close source)
        Sh.call (.dispose .interrupt .ignored)
        Sh.call (.dispose .quit .ignored)
        Sh.call (.dispose .hangup .ignored)
        Sh.call (.dispose .pipe .usual)
        let _ ← Sh.call (.write sink bytes)
        Sh.act (Act.exit 0)
  let _ ← Sh.call (.close sink)
  pure source

/-- Why a file cannot be read. -/
def readFaultText : Fault -> String
  | .missing | .notDirectory => "No such file"
  | fault => fault.text

/-- Why a file cannot be written. -/
def writeFaultText : Fault -> String
  | .missing | .notDirectory => "Directory nonexistent"
  | fault => fault.text

/-- What a file is opened for. -/
def purposeOf (protects : Bool) : FileUse -> Purpose
  | .input => .reading
  | .output => if protects then .making else .writing
  | .overwrite => .writing
  | .append => .appending
  | .both => .both

/-- Open a file; the result is its descriptor. -/
def openFile
    (use : FileUse)
    (path : Octets) : Sh Nat := do
  let protects := (← get).has 'C'
  let language := (← get).language
  match ← Sh.call (.open path (purposeOf protects use)), language with
  | .ok descriptor, _ => pure descriptor
  | .error .occupied, .extended => failWire s!"{path}: cannot overwrite existing file"
  | .error fault, .extended => failWire s!"{path}: {fault.text}"
  | .error fault, .plain =>
      if use == .input then Sh.fail s!"cannot open {path}: {readFaultText fault}"
      else Sh.fail s!"cannot create {path}: {writeFaultText fault}"

/-- Keep a descriptor for later, unless it has been kept for this command. -/
def keep (descriptor : Nat) : Sh Unit := do
  match (← get).kept with
  | [] => pure ()
  | innermost :: outer =>
      if !innermost.any (·.1 == descriptor) then
        let saved ← do
          match ← Sh.call (.copy descriptor keptFrom) with
          | .ok saved => do
              let _ ← Sh.call (.close descriptor)
              pure (some saved)
          | .error _ => pure none
        modify ({ · with kept := ((descriptor, saved) :: innermost) :: outer })

/-- Note that a descriptor led nowhere before, unless it has been kept for this command. -/
def keepNothing (descriptor : Nat) : Sh Unit :=
  modify fun state =>
    match state.kept with
    | [] => state
    | innermost :: outer =>
        if innermost.any (·.1 == descriptor) then state
        else { state with kept := ((descriptor, none) :: innermost) :: outer }

/-- Let a descriptor stand for a file that has just been opened. -/
def settle
    (saves : Bool)
    (descriptor opened : Nat) : Sh Unit := do
  if descriptor == opened then
    if saves then keepNothing descriptor
  else
    if saves then keep descriptor
    let _ ← Sh.call (.assign opened descriptor)
    let _ ← Sh.call (.close opened)

/-- Carry out a redirection. -/
def connect
    (capture : Script -> Sh Octets)
    (saves : Bool) : Wire -> Sh Unit
  | .file descriptor use path => do
      settle saves descriptor (← openFile use path)
  | .document descriptor number => do
      let word := ((← get).documents.lookup number).getD []
      let text ← proseOf capture word
      settle saves descriptor (← openDocument (Octets.toBytes text))
  | .text descriptor text => do
      settle saves descriptor (← openDocument (Octets.toBytes text))
  | .duplicate descriptor source => do
      if descriptor != source then
        if saves then keep descriptor
        match ← Sh.call (.assign source descriptor) with
        | .ok () => pure ()
        | .error fault => failWire s!"{source}: {fault.text}"
  | .cut descriptor => do
      if saves then keep descriptor
      let _ ← Sh.call (.close descriptor)

/-- Carry out some redirections, which are undone later. -/
def connectAll
    (capture : Script -> Sh Octets)
    (wires : List Wire) : Sh Unit := do
  for wire in wires do
    connect capture true wire

/-- Carry out some redirections for good. -/
def connectForGood
    (capture : Script -> Sh Octets)
    (wires : List Wire) : Sh Unit := do
  for wire in wires do
    connect capture false wire

/-- Begin a group of redirections. -/
def beginKeeping : Sh Unit :=
  modify fun state => { state with kept := [] :: state.kept }

/-- Put back a descriptor that has been kept, unless the change is for good. -/
def putBack
    (forGood : Bool)
    (descriptor : Nat)
    (saved : Option Nat) : Sh Unit := do
  match saved with
  | none =>
      if !forGood then
        let _ ← Sh.call (.close descriptor)
  | some saved => do
      if !forGood then
        let _ ← Sh.call (.assign saved descriptor)
      let _ ← Sh.call (.close saved)

/-- End a group of redirections. -/
def endKeeping (forGood : Bool) : Sh Unit := do
  match (← get).kept with
  | [] => pure ()
  | innermost :: outer => do
      modify ({ · with kept := outer })
      for (descriptor, saved) in innermost do
        putBack forGood descriptor saved

/-- The status of redirections that are undone later; zero if they succeed. -/
def connectSafely
    (capture : Script -> Sh Octets)
    (wires : List Wire) : Sh Nat := do
  match ← Sh.attempt (connectAll capture wires) with
  | .ok () => pure 0
  | .error .mistake => do
      let status := if (← get).language == .plain then 2 else 1
      modify ({ · with status })
      pure status
  | .error jump => throw jump

/-- Expand the words of some redirections. -/
def wiresOf
    (capture : Script -> Sh Octets)
    (redirections : List Redirection) : Sh (List Wire) := do
  pure (← redirections.mapM (Wire.ofRedirection capture)).flatten

end Shell
end CameraFleet
