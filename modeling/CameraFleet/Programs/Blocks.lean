import CameraFleet.Programs.Copy
import CameraFleet.Text.Padding

/-!
# Copying blocks

A file is copied in blocks of a certain size, as many of them as are asked for,
from one place on and to another. What is copied may be converted on the way.
-/

namespace CameraFleet
namespace Programs

open Host

namespace Blocks

/-- A number of blocks, or of bytes. -/
structure Amount where
  /-- The number. -/
  count : Nat
  /-- Whether bytes are counted. -/
  ofBytes : Bool := false
  deriving Repr, DecidableEq

/-- The number of bytes. -/
def Amount.bytes (amount : Amount) (size : Nat) : Nat :=
  if amount.ofBytes then amount.count else amount.count * size

/-- How much is told at the end. -/
inductive Telling
  /-- Everything. -/
  | all
  /-- The numbers of blocks. -/
  | records
  /-- Nothing. -/
  | nothing
  deriving Repr, DecidableEq

/-- What is copied, and how. -/
structure Plan where
  /-- The path of the input, if it is not the usual one. -/
  input : Option Octets := none
  /-- The path of the output, if it is not the usual one. -/
  output : Option Octets := none
  /-- The size of blocks that are read. -/
  inputSize : Nat := 512
  /-- The size of blocks that are written. -/
  outputSize : Nat := 512
  /-- The size of both. -/
  bothSize : Option Nat := none
  /-- The size of lines that are made blocks. -/
  lineSize : Nat := 0
  /-- How much is copied at most. -/
  count : Option Amount := none
  /-- How much of the input is left out at the start. -/
  skip : Amount := ⟨0, false⟩
  /-- Where in the output the copy starts. -/
  seek : Amount := ⟨0, false⟩
  /-- The conversions. -/
  conversions : List Octets := []
  /-- The flags of the input. -/
  inputFlags : List Octets := []
  /-- The flags of the output. -/
  outputFlags : List Octets := []
  /-- How much is told at the end. -/
  telling : Telling := .all
  deriving Repr, DecidableEq

/-- How far the copy is. -/
structure Progress where
  /-- The number of whole blocks that have been read. -/
  readFull : Nat := 0
  /-- The number of other blocks that have been read. -/
  readPartial : Nat := 0
  /-- The number of whole blocks that have been written. -/
  writtenFull : Nat := 0
  /-- The number of other blocks that have been written. -/
  writtenPartial : Nat := 0
  /-- The number of bytes that have been written. -/
  writtenBytes : Nat := 0
  /-- The number of lines that have been cut. -/
  cut : Nat := 0
  /-- What has not been written yet. -/
  pending : ByteArray := .empty
  /-- What is to be written at the end. -/
  held : ByteArray := .empty
  /-- A byte whose neighbour has not been read yet. -/
  single : Option UInt8 := none
  /-- The column in a line. -/
  column : Nat := 0
  /-- The blanks that may be at the end of a line. -/
  blanks : Nat := 0
  /-- Whether something has failed. -/
  hasFailed : Bool := false

namespace Plan

/-- Whether there is a conversion. -/
def converts (plan : Plan) (name : Octets) : Bool :=
  plan.conversions.contains name

/-- Whether blocks are written just as they have been read. -/
def isDirect (plan : Plan) : Bool :=
  plan.bothSize.isSome &&
    !(["block", "unblock", "lcase", "ucase", "swab", "ascii", "ebcdic", "ibm"].any plan.converts)

/-- The size of blocks that are read. -/
def readSize (plan : Plan) : Nat :=
  plan.bothSize.getD plan.inputSize

/-- The size of blocks that are written. -/
def writeSize (plan : Plan) : Nat :=
  plan.bothSize.getD plan.outputSize

/-- Whether the copy becomes a part of a file that may be there already. -/
def isInserted (plan : Plan) : Bool :=
  plan.output.isSome && (plan.seek.count != 0 || plan.converts "notrunc")

/-- The name of the input. -/
def inputName (plan : Plan) : Octets :=
  plan.input.getD "standard input"

/-- The name of the output. -/
def outputName (plan : Plan) : Octets :=
  plan.output.getD "standard output"

/-! ## Conversions -/

/-- Exchange the bytes of each pair; a byte without a neighbour waits for the next block. -/
def swapped (progress : Progress) (block : ByteArray) : Progress × ByteArray :=
  let bytes :=
    match progress.single with
    | some byte => ByteArray.mk #[byte] ++ block
    | none => block
  let even := bytes.size / 2 * 2
  let single := if even < bytes.size then some (bytes.get! even) else none
  let pairs := (List.range (bytes.size / 2)).foldl
    (fun done place => (done.push (bytes.get! (2 * place + 1))).push (bytes.get! (2 * place)))
    ByteArray.empty
  ({ progress with single }, pairs)

/-- A byte in the case that is asked for. -/
def inCase (plan : Plan) (byte : UInt8) : UInt8 :=
  let c := Char.ofNat byte.toNat
  if plan.converts "lcase" && c.isUpper then byte + 32
  else if plan.converts "ucase" && c.isLower then byte - 32
  else byte

/-- So many blanks. -/
def blankBytes (count : Nat) : ByteArray :=
  ByteArray.mk (Array.replicate count 32)

/-- Make lines blocks. -/
def blocked (plan : Plan) (progress : Progress) (block : ByteArray) : Progress × ByteArray :=
  block.foldl (fun (progress, done) byte =>
    if byte == 10 then
      ({ progress with column := 0 }, done ++ blankBytes (plan.lineSize - progress.column))
    else
      let cut := if progress.column = plan.lineSize then progress.cut + 1 else progress.cut
      let done := if progress.column < plan.lineSize then done.push byte else done
      ({ progress with column := progress.column + 1, cut }, done)) (progress, .empty)

/-- Make blocks lines. -/
def unblocked (plan : Plan) (progress : Progress) (block : ByteArray) : Progress × ByteArray :=
  block.foldl (fun (progress, done) byte =>
    let isFull := progress.column = plan.lineSize
    let (done, column, blanks) :=
      if isFull then (done.push 10, 0, 0) else (done, progress.column, progress.blanks)
    if byte == 32 then ({ progress with column := column + 1, blanks := blanks + 1 }, done)
    else
      ({ progress with column := column + 1, blanks := 0 },
        (done ++ blankBytes blanks).push byte)) (progress, .empty)

/-- Convert a block that has been read. -/
def converted (plan : Plan) (progress : Progress) (block : ByteArray) : Progress × ByteArray :=
  let block :=
    if plan.converts "lcase" || plan.converts "ucase" then
      ByteArray.mk (block.data.map plan.inCase)
    else block
  let (progress, block) :=
    if plan.converts "swab" then swapped progress block else (progress, block)
  if plan.lineSize = 0 then (progress, block)
  else if plan.converts "block" then plan.blocked progress block
  else if plan.converts "unblock" then plan.unblocked progress block
  else (progress, block)

/-- What comes after all blocks. -/
def ending (plan : Plan) (progress : Progress) : ByteArray :=
  let single : ByteArray := ByteArray.mk (progress.single.toList.toArray)
  if plan.lineSize = 0 then single
  else if plan.converts "block" && progress.column != 0 then
    single ++ blankBytes (plan.lineSize - progress.column)
  else if plan.converts "unblock" && progress.column = plan.lineSize then single.push 10
  else single

/-! ## Copying -/

/-- Write a block. -/
def put
    (plan : Plan)
    (name : Octets)
    (target : Nat)
    (progress : Progress)
    (block : ByteArray) : Act Progress := do
  let noted (progress : Progress) : Progress :=
    let isFull := block.size = plan.writeSize
    { progress with
      writtenFull := progress.writtenFull + (if isFull then 1 else 0)
      writtenPartial := progress.writtenPartial + (if isFull then 0 else 1)
      writtenBytes := progress.writtenBytes + block.size }
  if block.isEmpty then pure progress
  else if plan.isInserted then
    pure (noted { progress with held := progress.held ++ block })
  else
    match ← Act.call (.write target block) with
    | .ok () => pure (noted progress)
    | .error fault => do
        warn name s!"error writing {Quoted.word plan.outputName}: {fault.text}"
        pure { progress with hasFailed := true }

/-- Write what can be written as whole blocks; the number bounds them. -/
def putFull
    (plan : Plan)
    (name : Octets)
    (target : Nat) : Nat -> Progress -> Act Progress
  | 0, progress => pure progress
  | fuel + 1, progress => do
      if progress.hasFailed || progress.pending.size < plan.writeSize then pure progress
      else
        let block := progress.pending.extract 0 plan.writeSize
        let rest := progress.pending.extract plan.writeSize progress.pending.size
        let progress ← plan.put name target { progress with pending := rest } block
        putFull plan name target fuel progress

/-- Read until a block is full, or there is no more; the number bounds the reading. -/
def fillBlock (source most : Nat) : Nat -> ByteArray -> Act (Except Fault ByteArray)
  | 0, sofar => pure (.ok sofar)
  | turns + 1, sofar => do
      if most ≤ sofar.size then pure (.ok sofar)
      else
        match ← Act.call (.read source (most - sofar.size)) with
        | .error fault => pure (.error fault)
        | .ok bytes =>
            if bytes.isEmpty then pure (.ok sofar)
            else fillBlock source most turns (sofar ++ bytes)

/-- Read a block. -/
def take (plan : Plan) (source most : Nat) : Act (Except Fault ByteArray) :=
  if plan.inputFlags.contains "fullblock" then fillBlock source most (most + 1) .empty
  else Act.call (.read source most)

/-- How much the next block has at most; none if no more blocks are read. -/
def nextSize? (plan : Plan) (progress : Progress) : Option Nat :=
  let size := plan.readSize
  let blocks := progress.readFull + progress.readPartial
  match plan.count with
  | none => some size
  | some { count, ofBytes := false } => if blocks < count then some size else none
  | some { count, ofBytes := true } =>
      if blocks < count / size then some size
      else if blocks = count / size && count % size != 0 then some (count % size)
      else none

/-- Fill up a block that is too small, if that is asked for. -/
def synced (plan : Plan) (block : ByteArray) : ByteArray :=
  if !plan.converts "sync" then block
  else
    let isLined := plan.converts "block" || plan.converts "unblock"
    let filler : UInt8 := if isLined then 32 else 0
    block ++ ByteArray.mk (Array.replicate (plan.readSize - block.size) filler)

/-- Copy block after block; the number bounds them. -/
def copyOn
    (plan : Plan)
    (name : Octets)
    (source target : Nat) : Nat -> Progress -> Act Progress
  | 0, progress => pure progress
  | turns + 1, progress => do
      match plan.nextSize? progress with
      | none => pure progress
      | some most =>
          match ← plan.take source most with
          | .error fault => do
              warn name s!"error reading {Quoted.word plan.inputName}: {fault.text}"
              pure { progress with hasFailed := true }
          | .ok block =>
              if block.isEmpty then pure progress
              else
                let isFull := block.size = plan.readSize
                let progress :=
                  { progress with
                    readFull := progress.readFull + (if isFull then 1 else 0)
                    readPartial := progress.readPartial + (if isFull then 0 else 1) }
                let block := plan.synced block
                let progress ←
                  if plan.isDirect then plan.put name target progress block
                  else do
                    let (progress, block) := plan.converted progress block
                    let pending := progress.pending ++ block
                    plan.putFull name target (pending.size + 1) { progress with pending }
                if progress.hasFailed then pure progress
                else copyOn plan name source target turns progress

/-- Pass over bytes of an input; the result is how many are missing. -/
def passOver (source : Nat) : Nat -> Nat -> Act Nat
  | 0, left => pure left
  | turns + 1, left => do
      if left = 0 then pure 0
      else
        match ← Act.call (.read source (min left block)) with
        | .error _ => pure left
        | .ok bytes => if bytes.isEmpty then pure left else passOver source turns (left - bytes.size)

/-! ## What is told -/

/-- A number of bytes with a unit, if it is large enough for one. -/
def scaled (bytes base : Nat) : List Octets -> Nat -> Octets
  | [], _ => toString bytes
  | letter :: rest, unit =>
      if bytes < unit * base || rest.isEmpty then
        let tenths := (bytes * 10 + unit / 2) / unit
        let number :=
          if tenths < 100 then s!"{tenths / 10}.{tenths % 10}"
          else toString ((bytes + unit / 2) / unit)
        s!"{number} {letter}"
      else scaled bytes base rest (unit * base)

/-- What is told at the end. -/
def summary (plan : Plan) (progress : Progress) (elapsed : Nat) : Octets :=
  if plan.telling == .nothing then ""
  else
    let cut :=
      if progress.cut = 0 then ""
      else if progress.cut = 1 then "1 truncated record\n"
      else s!"{progress.cut} truncated records\n"
    let records :=
      s!"{progress.readFull}+{progress.readPartial} records in\n" ++
      s!"{progress.writtenFull}+{progress.writtenPartial} records out\n" ++ cut
    if plan.telling == .records then records
    else
      let bytes := progress.writtenBytes
      let decimal := scaled bytes 1000 ["kB", "MB", "GB", "TB"] 1000
      let binary := scaled bytes 1024 ["KiB", "MiB", "GiB", "TiB"] 1024
      let amount : Octets :=
        if bytes = 1 then "1 byte"
        else if bytes < 1000 then s!"{bytes} bytes"
        else if bytes < 1024 then s!"{bytes} bytes ({decimal})"
        else s!"{bytes} bytes ({decimal}, {binary})"
      let milliseconds := max elapsed 1
      let rate := bytes * 1000 / milliseconds
      let speed :=
        if rate < 1000 then s!"{rate}.0 B" else scaled rate 1000 ["kB", "MB", "GB", "TB"] 1000
      let fraction := Text.padded 3 (milliseconds % 1000)
      records ++ s!"{amount} copied, {milliseconds / 1000}.{fraction} s, {speed}/s\n"

/-- Put the copy into the file that is there. -/
def insert
    (plan : Plan)
    (name : Octets)
    (old : ByteArray)
    (progress : Progress) : Act Progress := do
  let start := plan.seek.bytes plan.writeSize
  let fill := ByteArray.mk (Array.replicate (start - old.size) 0)
  let isAppended := plan.outputFlags.contains "append"
  let before := if isAppended then old else old.extract 0 start ++ fill
  let stop := start + progress.held.size
  let after :=
    if plan.converts "notrunc" && !isAppended then old.extract stop old.size else .empty
  let path := plan.outputName
  match ← Act.call (.open path .writing) with
  | .error fault => do
      warn name s!"failed to open {Quoted.word path}: {fault.text}"
      pure { progress with hasFailed := true }
  | .ok target => do
      let written ← Act.call (.write target (before ++ progress.held ++ after))
      closeInput target
      match written with
      | .ok () => pure progress
      | .error fault => do
          warn name s!"error writing {Quoted.word path}: {fault.text}"
          pure { progress with hasFailed := true }

/-- Copy from one descriptor to another one. -/
def copy
    (plan : Plan)
    (name : Octets)
    (old : ByteArray)
    (source target : Nat) : Act Nat := do
  let began ← Act.call .clock
  let missing ← passOver source manyTurns (plan.skip.bytes plan.readSize)
  if missing != 0 && plan.telling != .nothing then
    warn name s!"{Quoted.wordIfNeeded plan.inputName}: cannot skip to specified offset"
  let start := plan.seek.bytes plan.writeSize
  let canSeek ←
    if start = 0 || plan.isInserted then pure true
    else
      match ← Act.call (.lookAt target) with
      | .ok { kind := .entry .file, .. } => do
          let _ ← Act.call (.write target (ByteArray.mk (Array.replicate start 0)))
          pure true
      | _ => do
          warn name s!"{Quoted.wordIfNeeded plan.outputName}: cannot seek: Illegal seek"
          pure false
  let progress ←
    if canSeek then plan.copyOn name source target manyTurns {}
    else pure { hasFailed := true }
  let progress ←
    if progress.hasFailed || plan.isDirect then pure progress
    else do
      let pending := progress.pending ++ plan.ending progress
      let progress ← plan.putFull name target (pending.size + 1) { progress with pending }
      plan.put name target progress progress.pending
  let progress ← if plan.isInserted then plan.insert name old progress else pure progress
  let ended ← Act.call .clock
  Act.complain (plan.summary progress (ended - began))
  pure (if progress.hasFailed then 1 else 0)

/-- Open what is copied, and copy. -/
def run (plan : Plan) (name : Octets) : Act Nat := do
  let refuse (path : Octets) (fault : Fault) : Act Nat :=
    fail name s!"failed to open {Quoted.word path}: {fault.text}" 1
  let source ←
    match plan.input with
    | none => pure (.ok 0)
    | some path => Act.call (.open path .reading)
  match source, plan.output with
  | .error fault, _ => refuse plan.inputName fault
  | .ok source, none => plan.copy name .empty source 1
  | .ok source, some path =>
      let seen ← Act.call (.look path true)
      if plan.converts "excl" && seen.isOk then refuse path .occupied
      else if plan.converts "nocreat" && !seen.isOk then refuse path .missing
      else if plan.isInserted then
        let old ←
          match ← Act.call (.open path .reading) with
          | .error _ => pure .empty
          | .ok descriptor => do
              let content ← readAll descriptor
              closeInput descriptor
              pure (content.toOption.getD .empty)
        plan.copy name old source 1
      else
        let purpose := if plan.outputFlags.contains "append" then .appending else .writing
        match ← Act.call (.open path purpose) with
        | .error fault => refuse path fault
        | .ok target => plan.copy name .empty source target

end Plan

/-! ## Operands -/

/-- What a number may be multiplied with. -/
def factors : List (Octets × Nat) :=
  ("c", 1) :: ("w", 2) :: suffixes

/-- A number, perhaps a product, or none; the number bounds its factors. -/
def product? : Nat -> Octets -> Option Nat
  | 0, _ => none
  | fuel + 1, text => do
      let digits := text.toList.takeWhile Char.isDigit
      let number ← natural? (String.ofList digits)
      let rest := text.toList.dropWhile Char.isDigit
      let suffix := String.ofList (rest.takeWhile (· != 'x'))
      let factor ←
        match factors.lookup suffix with
        | some factor => some factor
        | none =>
            if suffix.endsWith "B" then factors.lookup (String.ofList suffix.toList.dropLast)
            else none
      match rest.dropWhile (· != 'x') with
      | [] => pure (number * factor)
      | _ :: others => do
          let other ← product? fuel (String.ofList others)
          pure (number * factor * other)

/-- A number, or what is wrong with it. -/
def numberOf (text : Octets) : Except Octets Nat :=
  match product? (text.length + 1) text with
  | none => .error s!"invalid number: {Quoted.plain text}"
  | some n =>
      if n < 9223372036854775808 then .ok n
      else
        .error s!"invalid number: {Quoted.plain text}: Value too large for defined data type"

/-- A number that is not zero, or what is wrong with it. -/
def sizeOf (text : Octets) : Except Octets Nat := do
  match ← numberOf text with
  | 0 => throw s!"invalid number: {Quoted.plain text}"
  | n => pure n

/-- An amount, or what is wrong with it. -/
def amountOf (text : Octets) : Except Octets Amount := do
  let count ← numberOf text
  pure { count, ofBytes := text.contains 'B' }

/-- The conversions. -/
def allConversions : List Octets :=
  ["ascii", "ebcdic", "ibm", "block", "unblock", "lcase", "ucase", "sparse", "swab", "sync",
    "noerror", "nocreat", "excl", "notrunc", "fdatasync", "fsync"]

/-- The flags. -/
def allFlags : List Octets :=
  ["append", "binary", "cio", "direct", "directory", "dsync", "noatime", "nocache", "noctty",
    "nofollow", "nolinks", "nonblock", "sync", "text", "fullblock", "count_bytes", "skip_bytes",
    "seek_bytes"]

/-- The words of a list, or the first one that is unknown. -/
def wordsOf (known : List Octets) (what text : Octets) : Except Octets (List Octets) :=
  (text.splitOn ",").mapM fun word =>
    if known.contains word then .ok word else .error s!"{what}: {Quoted.plain word}"

/-- Why operands are refused: the reason, and whether a hint follows. -/
abbrev Refusal := Octets × Bool

/-- What has been found, or a reason without a hint. -/
def plainly (found : Except Octets α) : Except Refusal α :=
  found.mapError fun reason => (reason, false)

/-- What has been found, or a reason with a hint. -/
def hinted (found : Except Octets α) : Except Refusal α :=
  found.mapError fun reason => (reason, true)

/-- Take an operand. -/
def takeOperand (plan : Plan) (operand : Octets) : Except Refusal Plan := do
  let chars := operand.toList
  let key := String.ofList (chars.takeWhile (· != '='))
  let text := String.ofList ((chars.dropWhile (· != '=')).drop 1)
  if !chars.contains '=' then throw (s!"unrecognized operand {Quoted.plain operand}", true)
  match key with
  | "if" => pure { plan with input := some text }
  | "of" => pure { plan with output := some text }
  | "ibs" => pure { plan with inputSize := ← plainly (sizeOf text) }
  | "obs" => pure { plan with outputSize := ← plainly (sizeOf text) }
  | "bs" => pure { plan with bothSize := some (← plainly (sizeOf text)) }
  | "cbs" => pure { plan with lineSize := ← plainly (sizeOf text) }
  | "count" => pure { plan with count := some (← plainly (amountOf text)) }
  | "skip" | "iseek" => pure { plan with skip := ← plainly (amountOf text) }
  | "seek" | "oseek" => pure { plan with seek := ← plainly (amountOf text) }
  | "conv" =>
      let words ← hinted (wordsOf allConversions "invalid conversion" text)
      pure { plan with conversions := plan.conversions ++ words }
  | "iflag" =>
      let words ← hinted (wordsOf allFlags "invalid input flag" text)
      pure { plan with inputFlags := plan.inputFlags ++ words }
  | "oflag" =>
      let words ← hinted (wordsOf allFlags "invalid output flag" text)
      pure { plan with outputFlags := plan.outputFlags ++ words }
  | "status" =>
      match text with
      | "none" => pure { plan with telling := .nothing }
      | "noxfer" => pure { plan with telling := .records }
      | "progress" => pure { plan with telling := .all }
      | _ => throw (s!"invalid status level: {Quoted.plain text}", true)
  | _ => throw (s!"unrecognized operand {Quoted.plain operand}", true)

/-- Settle what follows from all operands together. -/
def settled (plan : Plan) : Except Refusal Plan := do
  for (one, other) in [("lcase", "ucase"), ("excl", "nocreat"), ("block", "unblock")] do
    if plan.converts one && plan.converts other then
      throw (s!"cannot combine {one} and {other}", false)
  let counting (amount : Amount) (flags : List Octets) (flag : Octets) : Amount :=
    { amount with ofBytes := amount.ofBytes || flags.contains flag }
  pure
    { plan with
      count := plan.count.map fun count => counting count plan.inputFlags "count_bytes"
      skip := counting plan.skip plan.inputFlags "skip_bytes"
      seek := counting plan.seek plan.outputFlags "seek_bytes" }

/-- Copy a file in blocks. -/
def program : Program :=
  withOptions {} 1 fun launch _ operands => do
    match operands.foldlM takeOperand {} >>= settled with
    | .error (reason, isHinted) =>
        if isHinted then misuse launch.name reason 1 else fail launch.name reason 1
    | .ok plan => plan.run launch.name

end Blocks

/-- Copy a file in blocks. -/
def dd : Program :=
  Blocks.program

end Programs
end CameraFleet
