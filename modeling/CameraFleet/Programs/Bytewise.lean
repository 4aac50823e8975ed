import CameraFleet.Programs.Copy

/-!
# Comparing bytes

Two files are compared byte by byte. Either the first place at which they differ
is told, or every one, or none.
-/

namespace CameraFleet
namespace Programs

open Host

namespace Bytewise

/-- What is told about differences. -/
inductive Report
  /-- The place of the first one. -/
  | first
  /-- The place of the first one, with the bytes. -/
  | firstBytes
  /-- All places, with the values of the bytes. -/
  | all
  /-- All places, with the values of the bytes and the bytes. -/
  | allBytes
  /-- Nothing. -/
  | nothing
  deriving Repr, DecidableEq

/-- How two files are compared. -/
structure Plan where
  /-- What is told. -/
  report : Report
  /-- How many bytes at the start of the first file do not count. -/
  firstSkip : Nat
  /-- How many bytes at the start of the second file do not count. -/
  secondSkip : Nat
  /-- How many bytes are compared at most. -/
  most : Option Nat
  deriving Repr, DecidableEq

/-- A byte as it is shown. -/
def shown (byte : Nat) : Octets :=
  let marking : Marking := { hidden := true, tabs := true }
  if byte == 10 then "^J" else if byte == 138 then "M-^J" else marking.visible byte

/-- A number in octal digits. -/
def octal (byte : Nat) : Octets :=
  let digits := String.ofList (Nat.toDigits 8 byte)
  String.ofList (List.replicate (3 - digits.length) ' ') ++ digits

/-- The places up to a bound at which bytes differ; the first number bounds them. -/
def differing (a b : ByteArray) (stop : Nat) : Nat -> Nat -> List Nat
  | 0, _ => []
  | fuel + 1, place =>
      if stop ≤ place then []
      else
        let rest := differing a b stop fuel (place + 1)
        if a.get! place == b.get! place then rest else place :: rest

/-- The first place up to a bound at which bytes differ; the first number bounds the steps. -/
def firstDifferent? (a b : ByteArray) (stop : Nat) : Nat -> Nat -> Option Nat
  | 0, _ => none
  | fuel + 1, place =>
      if stop ≤ place then none
      else if a.get! place == b.get! place then firstDifferent? a b stop fuel (place + 1)
      else some place

/-- The number of line ends before a place. -/
def lineEnds (bytes : ByteArray) (stop : Nat) : Nat :=
  (bytes.extract 0 stop).foldl (fun count byte => if byte == 10 then count + 1 else count) 0

/-- A file that is compared: its name, its size if that is known before, and its bytes. -/
structure Operand where
  /-- The name. -/
  name : Octets
  /-- The size of a file. -/
  size : Option Nat
  /-- What counts of its bytes. -/
  bytes : ByteArray

namespace Plan

/-- How wide places are shown. -/
def placeWidth (plan : Plan) (a b : Operand) : Nat :=
  let sizes := [plan.most, a.size, b.size].filterMap fun size => size
  let least := sizes.foldl min 9223372036854775807
  (toString least).length

/-- What is told about the places at which two files differ. -/
def differences
    (plan : Plan)
    (a b : Operand) : List Octets :=
  let stop := min a.bytes.size b.bytes.size
  let values (place : Nat) : Nat × Nat :=
    ((a.bytes.get! place).toNat, (b.bytes.get! place).toNat)
  let fill (width : Nat) (text : Octets) : Octets :=
    text ++ String.ofList (List.replicate (width - text.length) ' ')
  let single (named : Octets) (withBytes : Bool) : List Octets :=
    match firstDifferent? a.bytes b.bytes stop (stop + 1) 0 with
    | none => []
    | some place =>
        let (x, y) := values place
        let line := lineEnds a.bytes place + 1
        let bytes := if withBytes then s!" is {octal x} {shown x} {octal y} {shown y}" else ""
        [s!"{a.name} {b.name} differ: {named} {place + 1}, line {line}" ++ bytes ++ "\n"]
  let width := plan.placeWidth a b
  let every (text : Nat -> Nat -> Octets) : List Octets :=
    (differing a.bytes b.bytes stop (stop + 1) 0).map fun place =>
      let (x, y) := values place
      s!"{rightAligned width (place + 1)} " ++ text x y ++ "\n"
  match plan.report with
  | .nothing => []
  | .first => single "char" false
  | .firstBytes => single "byte" true
  | .all => every fun x y => s!"{octal x} {octal y}"
  | .allBytes => every fun x y => s!"{octal x} {fill 4 (shown x)} {octal y} {shown y}"

/-- What is complained about when one of two files is shorter; lines may not have been counted. -/
def shortage
    (plan : Plan)
    (countsLines : Bool)
    (a b : Operand) : Octets :=
  let shorter := if b.bytes.size < a.bytes.size then b else a
  let size := shorter.bytes.size
  if size = 0 then s!"EOF on {shorter.name} which is empty"
  else
    let lines := lineEnds shorter.bytes size
    let place :=
      if !countsLines || plan.report == .all || plan.report == .allBytes then ""
      else if shorter.bytes.get! (size - 1) == 10 then s!", line {lines}"
      else s!", in line {lines + 1}"
    s!"EOF on {shorter.name} after byte {size}" ++ place

/-- Compare two files. -/
def compare
    (plan : Plan)
    (name : Octets)
    (a b : Operand) : Act Nat := do
  if a.bytes == b.bytes then pure 0
  else
    let lines := plan.differences a b
    let isShort := a.bytes.size != b.bytes.size
    let isOver := !lines.isEmpty && (plan.report == .first || plan.report == .firstBytes)
    let status ← printing name (String.join lines) 1
    if isShort && !isOver && plan.report != .nothing then
      let isHeard ← do
        match ← Act.call (.lookAt 1) with
        | .ok sight => pure (sight.kind != .entry (.device .null))
        | .error _ => pure true
      warn name (plan.shortage isHeard a b)
    pure status

end Plan

/-- The numbers of bytes that do not count, or what is wrong with them. -/
def skipsOf (text : Octets) : Except Octets (Nat × Nat) :=
  let wrong (text : Octets) : Octets := s!"invalid --ignore-initial value '{text}'"
  let parts := text.splitOn ":"
  match parts.map count? with
  | [.ok both] => .ok (both, both)
  | [.ok first, .ok second] => .ok (first, second)
  | .ok _ :: _ => .error (wrong (String.intercalate ":" (parts.drop 1)))
  | _ => .error (wrong text)

/-- How two files are compared, or what is wrong with the options. -/
def planOf (given : List Given) (skips : List Octets) : Except Octets Plan := do
  let values (letter : Char) : List Octets := given.filterMap fun option =>
    if option.letter == letter then option.argument else none
  let pairs ← (values 'i').mapM skipsOf
  let bounds ← (values 'n').mapM fun text =>
    match count? text with
    | .ok n => pure n
    | .error _ => throw s!"invalid --bytes value '{text}'"
  if isGiven given 'l' && isGiven given 's' then
    throw "options -l and -s are incompatible"
  let further ← skips.mapM fun text =>
    match count? text with
    | .ok n => pure n
    | .error _ => throw s!"invalid --ignore-initial value '{text}'"
  let withBytes := isGiven given 'b' || isGiven given 'c'
  let report : Report :=
    if isGiven given 's' then .nothing
    else if isGiven given 'l' then if withBytes then .allBytes else .all
    else if withBytes then .firstBytes
    else .first
  let least : Option Nat :=
    bounds.foldl (fun least n => some (min n (least.getD n))) none
  pure
    { report, most := least
      firstSkip := (pairs.map (·.1) ++ further.take 1).foldl max 0
      secondSkip := (pairs.map (·.2) ++ further.drop 1).foldl max 0 }

/-- Read a file that is compared; none if that fails. -/
def readOperand
    (plan : Plan)
    (name operand : Octets)
    (skip : Nat) : Act (Option Operand) := do
  let refuse (fault : Fault) : Act (Option Operand) := do
    if plan.report != .nothing then warn name s!"{operand}: {fault.text}"
    pure none
  match ← openInput operand with
  | .error fault => refuse fault
  | .ok descriptor => do
      let sight ← Act.call (.lookAt descriptor)
      let found ← readAll descriptor
      closeInput descriptor
      match found with
      | .error fault => refuse fault
      | .ok bytes =>
          let size : Option Nat :=
            match sight with
            | .ok { kind := .entry .file, size, .. } => some (size - skip)
            | _ => none
          let stop := (plan.most.map (skip + ·)).getD bytes.size
          pure (some { name := operand, size, bytes := bytes.extract skip stop })

/-- Whether two operands stand for the same file. -/
def areSame (one other : Octets) : Act Bool := do
  let look (operand : Octets) : Act (Except Fault Sight) :=
    if operand == "-" then Act.call (.lookAt 0) else Act.call (.look operand true)
  match ← look one, ← look other with
  | .ok first, .ok second =>
      pure (one == other || (first.number == second.number && first.kind == second.kind &&
        first.kind == .entry .file))
  | _, _ => pure false

/-- Complain about the arguments. -/
def misused (name text : Octets) : Act Nat := do
  warn name text
  warn name s!"Try '{name} --help' for more information."
  pure 2

/-- The options. -/
def options : OptionTable where
  letters :=
    [('b', .nothing), ('c', .nothing), ('i', .something), ('l', .nothing), ('n', .something),
      ('s', .nothing)]
  words :=
    [("print-bytes", 'b', .nothing), ("print-chars", 'c', .nothing),
      ("ignore-initial", 'i', .something), ("verbose", 'l', .nothing),
      ("bytes", 'n', .something), ("quiet", 's', .nothing), ("silent", 's', .nothing)]

/-- Compare two files byte by byte. -/
def program : Program := fun launch => do
  match options.read launch.args with
  | .error reason => misused launch.name reason
  | .ok (given, operands) =>
      match planOf given ((operands.drop 2).take 2), operands with
      | .error reason, _ => misused launch.name reason
      | .ok _, [] =>
          let last := (launch.args.getLast?).getD launch.name
          misused launch.name s!"missing operand after '{last}'"
      | .ok _, _ :: _ :: _ :: _ :: extra :: _ =>
          misused launch.name s!"extra operand '{extra}'"
      | .ok plan, one :: others => do
          let other := others.headD "-"
          if ← areSame one other then
            if plan.firstSkip = plan.secondSkip then return 0
          match ← readOperand plan launch.name one plan.firstSkip with
          | none => pure 2
          | some a =>
              match ← readOperand plan launch.name other plan.secondSkip with
              | none => pure 2
              | some b => plan.compare launch.name a b

end Bytewise

/-- Compare two files byte by byte. -/
def cmp : Program :=
  Bytewise.program

end Programs
end CameraFleet
