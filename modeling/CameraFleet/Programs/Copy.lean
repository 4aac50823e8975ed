import CameraFleet.Programs.Options

/-!
# Programs that copy what they read

They write what they read, or a part of it, as it is or with its lines marked.
-/

namespace CameraFleet
namespace Programs

open Host

/-- The input of an operand, which is a path; a hyphen stands for the usual input. -/
def openInput (operand : Octets) : Act (Except Fault Nat) :=
  if operand == "-" then pure (.ok 0) else Act.call (.open operand .reading)

/-- Close the input of an operand. -/
def closeInput (descriptor : Nat) : Act Unit := do
  if descriptor != 0 then
    let _ ← Act.call (.close descriptor)

/-- The operands, or the usual input if there are none. -/
def orInput (operands : List Octets) : List Octets :=
  if operands.isEmpty then ["-"] else operands

/-! ## Whole files -/

/-- How lines are marked when they are copied. -/
structure Marking where
  /-- Whether lines get numbers. -/
  numbers : Bool := false
  /-- Whether only lines that are not empty get numbers. -/
  numbersFull : Bool := false
  /-- Whether empty lines after an empty line are left out. -/
  squeezes : Bool := false
  /-- Whether the ends of lines are shown. -/
  ends : Bool := false
  /-- Whether tabs are shown. -/
  tabs : Bool := false
  /-- Whether other characters that cannot be seen are shown. -/
  hidden : Bool := false
  deriving Repr, DecidableEq

/-- Where marking is. -/
structure MarkingPlace where
  /-- The number of the last line that got one. -/
  number : Nat := 0
  /-- The number of empty lines before this place. -/
  blanks : Nat := 0
  /-- Whether a line starts here. -/
  atStart : Bool := true
  deriving Repr, DecidableEq

/-- A number, filled up with blanks in front. -/
def rightAligned (width number : Nat) : Octets :=
  let digits := toString number
  String.ofList (List.replicate (width - digits.length) ' ') ++ digits

/-- A byte in a form in which it can be seen. -/
def Marking.visible (marking : Marking) (byte : Nat) : Octets :=
  let low (n : Nat) : Octets :=
    if n < 32 then String.ofList ['^', Char.ofNat (n + 64)]
    else if n == 127 then "^?"
    else String.singleton (Char.ofNat n)
  if byte == 9 then if marking.tabs then "^I" else "\t"
  else if !marking.hidden then String.singleton (Char.ofNat byte)
  else if byte < 128 then low byte
  else "M-" ++ low (byte - 128)

/-- Mark a byte. -/
def Marking.step
    (marking : Marking)
    (state : MarkingPlace × ByteArray)
    (byte : UInt8) : MarkingPlace × ByteArray :=
  let (place, done) := state
  let numberText (number : Nat) : Octets := rightAligned 6 number ++ "\t"
  let lineEnd := if marking.ends then "$\n" else "\n"
  let add (text : Octets) : ByteArray := done ++ Octets.toBytes text
  if byte == 10 then
    if place.atStart then
      let blanks := place.blanks + 1
      if marking.squeezes && 1 < blanks then ({ place with blanks }, done)
      else if marking.numbers && !marking.numbersFull then
        ({ place with blanks, number := place.number + 1 },
          add (numberText (place.number + 1) ++ lineEnd))
      else ({ place with blanks }, add lineEnd)
    else ({ place with blanks := 0, atStart := true }, add lineEnd)
  else
    let text := marking.visible byte.toNat
    if place.atStart && (marking.numbers || marking.numbersFull) then
      ({ number := place.number + 1, blanks := 0, atStart := false },
        add (numberText (place.number + 1) ++ text))
    else ({ place with blanks := 0, atStart := false }, add text)

/-- Copy from a descriptor, with lines marked; none if writing fails. -/
def copyMarked
    (name : Octets)
    (marking : Marking)
    (descriptor : Nat) :
    Nat -> MarkingPlace -> Act (Option (Except Fault MarkingPlace))
  | 0, place => pure (some (.ok place))
  | turns + 1, place => do
      match ← Act.call (.read descriptor block) with
      | .error fault => pure (some (.error fault))
      | .ok bytes =>
          if bytes.isEmpty then pure (some (.ok place))
          else
            let (place, marked) :=
              if marking == {} then (place, bytes) else bytes.foldl marking.step (place, .empty)
            if ← emit name marked then copyMarked name marking descriptor turns place
            else pure none

/-- Copy some inputs one after another. -/
def copyEach
    (name : Octets)
    (marking : Marking)
    (status : Nat) :
    MarkingPlace -> List Octets -> Act Nat
  | _, [] => pure status
  | place, operand :: rest => do
      let refuse (fault : Fault) : Act Nat := do
        warn name s!"{Quoted.wordIfNeeded operand}: {fault.text}"
        copyEach name marking 1 place rest
      match ← openInput operand with
      | .error fault => refuse fault
      | .ok descriptor => do
          let copied ← copyMarked name marking descriptor manyTurns place
          closeInput descriptor
          match copied with
          | none => pure 1
          | some (.error fault) => refuse fault
          | some (.ok place) => copyEach name marking status place rest

/-- Copy files to the output. -/
def cat : Program :=
  withOptions
    { letters :=
        ['A', 'b', 'e', 'E', 'n', 's', 't', 'T', 'u', 'v'].map fun letter => (letter, .nothing)
      words :=
        [("number-nonblank", 'b', .nothing), ("number", 'n', .nothing),
          ("squeeze-blank", 's', .nothing), ("show-nonprinting", 'v', .nothing),
          ("show-ends", 'E', .nothing), ("show-tabs", 'T', .nothing),
          ("show-all", 'A', .nothing)] } 1 fun launch given operands =>
    let any (letters : List Char) : Bool := letters.any (isGiven given)
    let marking : Marking :=
      { numbers := any ['n'], numbersFull := any ['b'], squeezes := any ['s']
        ends := any ['A', 'e', 'E'], tabs := any ['A', 't', 'T']
        hidden := any ['A', 'e', 't', 'v'] }
    copyEach launch.name marking 0 {} (orInput operands)

/-! ## The start of files -/

/-- The factors of suffixes. -/
def suffixes : List (String × Nat) :=
  let letters := ['K', 'M', 'G', 'T', 'P', 'E', 'Z', 'Y']
  let powers := letters.zipIdx.flatMap fun (letter, place) =>
    let text := String.singleton letter
    [(text, Nat.pow 1024 (place + 1)), (text ++ "iB", Nat.pow 1024 (place + 1)),
      (text ++ "B", Nat.pow 1000 (place + 1))]
  ("", 1) :: ("b", 512) :: ("k", 1024) :: ("kiB", 1024) :: ("kB", 1000) :: powers

/-- The greatest number of things that can be counted. -/
def greatestCount : Nat := 18446744073709551615

/-- A number of things that may have a suffix, or what is wrong with the number. -/
def count? (text : Octets) : Except Octets Nat :=
  let digits := text.toList.takeWhile Char.isDigit
  let suffix := String.ofList (text.toList.dropWhile Char.isDigit)
  match natural? (String.ofList digits), suffixes.lookup suffix with
  | some number, some factor =>
      if number * factor ≤ greatestCount then .ok (number * factor)
      else .error s!"{Quoted.plain text}: Value too large for defined data type"
  | _, _ => .error (Quoted.plain text)

/-- What is taken of an input. -/
structure Share where
  /-- Whether bytes are counted, and not lines. -/
  ofBytes : Bool := false
  /-- The number of them. -/
  count : Nat := 10
  /-- Whether they are counted from the other end. -/
  fromOther : Bool := false
  /-- The byte that ends a line. -/
  lineEnd : UInt8 := 10

/-- The number of bytes that so many lines take up, and the number of lines that are missing. -/
def lineExtent
    (bytes : ByteArray)
    (lineEnd : UInt8)
    (lines : Nat) : Nat × Nat :=
  bytes.foldl (fun (extent, missing) byte =>
    if missing = 0 then (extent, missing)
    else (extent + 1, if byte == lineEnd then missing - 1 else missing)) (0, lines)

/-- Copy so many bytes of an input at most; whether writing has succeeded. -/
def copyBytes
    (name : Octets)
    (descriptor : Nat) :
    Nat -> Nat -> Act (Except Fault Bool)
  | 0, _ => pure (.ok true)
  | turns + 1, left => do
      if left = 0 then pure (.ok true)
      else
        match ← Act.call (.read descriptor (min left 8192)) with
        | .error fault => pure (.error fault)
        | .ok bytes =>
            if bytes.isEmpty then pure (.ok true)
            else if ← emit name bytes then copyBytes name descriptor turns (left - bytes.size)
            else pure (.ok false)

/-- Copy so many lines of an input at most; what is read in vain is put back. -/
def copyLines
    (name : Octets)
    (descriptor : Nat)
    (lineEnd : UInt8) :
    Nat -> Nat -> Act (Except Fault Bool)
  | 0, _ => pure (.ok true)
  | turns + 1, left => do
      if left = 0 then pure (.ok true)
      else
        match ← Act.call (.read descriptor 8192) with
        | .error fault => pure (.error fault)
        | .ok bytes =>
            if bytes.isEmpty then pure (.ok true)
            else
              let (extent, missing) := lineExtent bytes lineEnd left
              if missing = 0 then Act.call (.goBack descriptor (bytes.size - extent))
              if ← emit name (bytes.extract 0 extent) then
                copyLines name descriptor lineEnd turns missing
              else pure (.ok false)

/-- The places after the ends of lines, and the place after the last byte. -/
def lineBreaks (bytes : ByteArray) (lineEnd : UInt8) : Array Nat :=
  let (breaks, place) := bytes.foldl
    (fun (breaks, place) byte =>
      (if byte == lineEnd then breaks.push (place + 1) else breaks, place + 1))
    ((#[] : Array Nat), 0)
  if breaks.back? == some place || place = 0 then breaks else breaks.push place

/-- The place in some bytes before the last of the lines or bytes that are counted. -/
def Share.placeFromEnd (share : Share) (bytes : ByteArray) : Nat :=
  if share.ofBytes then bytes.size - share.count
  else
    let breaks := lineBreaks bytes share.lineEnd
    if share.count = 0 then bytes.size
    else if breaks.size ≤ share.count then 0
    else breaks.getD (breaks.size - share.count - 1) 0

/-- Copy the start of an input. -/
def copyStart
    (name : Octets)
    (share : Share)
    (descriptor : Nat) : Act (Except Fault Bool) := do
  if share.fromOther then
    match ← readAll descriptor with
    | .error fault => pure (.error fault)
    | .ok bytes => do
        pure (.ok (← emit name (bytes.extract 0 (share.placeFromEnd bytes))))
  else if share.ofBytes then copyBytes name descriptor manyTurns share.count
  else copyLines name descriptor share.lineEnd manyTurns share.count

/-- The line above what is copied of an input. -/
def headerOf (isFirst : Bool) (operand : Octets) : Octets :=
  let title := if operand == "-" then "standard input" else operand
  (if isFirst then "" else "\n") ++ s!"==> {title} <==\n"

/-- Copy parts of some inputs one after another. -/
def copyParts
    (name : Octets)
    (copy : Nat -> Act (Except Fault Bool))
    (headers : Bool)
    (status : Nat) :
    Bool -> List Octets -> Act Nat
  | _, [] => pure status
  | isFirst, operand :: rest => do
      match ← openInput operand with
      | .error fault => do
          warn name s!"cannot open {Quoted.word operand} for reading: {fault.text}"
          copyParts name copy headers 1 isFirst rest
      | .ok descriptor => do
          let shown ←
            if headers then emit name (Octets.toBytes (headerOf isFirst operand)) else pure true
          if !shown then pure 1
          else
            let copied ← copy descriptor
            closeInput descriptor
            match copied with
            | .error fault => do
                let title := if operand == "-" then "standard input" else operand
                warn name s!"error reading {Quoted.word title}: {fault.text}"
                copyParts name copy headers 1 false rest
            | .ok false => pure 1
            | .ok true => copyParts name copy headers status false rest

/-- Whether headers are wanted. -/
def wantsHeaders (given : List Given) (operands : List Octets) : Bool :=
  match lastOf? given ['q', 'v'] with
  | some 'v' => true
  | some _ => false
  | none => 1 < operands.length

/-- The options of programs that copy parts of files. -/
def partOptions : OptionTable :=
  { letters :=
      [('c', .something), ('n', .something), ('q', .nothing), ('v', .nothing), ('z', .nothing),
        ('f', .nothing), ('F', .nothing), ('s', .something)]
    words :=
      [("bytes", 'c', .something), ("lines", 'n', .something), ("quiet", 'q', .nothing),
        ("silent", 'q', .nothing), ("verbose", 'v', .nothing),
        ("zero-terminated", 'z', .nothing), ("follow", 'f', .nothing)] }

/-- The arguments with a number after a hyphen, in the first place, spelled out. -/
def spellNumber (args : List Octets) : List Octets :=
  match args with
  | first :: rest =>
      match first.toList with
      | '-' :: digits =>
          if !digits.isEmpty && digits.all Char.isDigit then
            "-n" :: String.ofList digits :: rest
          else args
      | _ => args
  | [] => []

/-- A share as options give it, or what is wrong with it; a sign may count from the other end. -/
def shareOf
    (given : List Given)
    (sign : Char) : Except Octets Share := do
  let lineEnd : UInt8 := if isGiven given 'z' then 0 else 10
  let letter := (lastOf? given ['c', 'n']).getD 'n'
  let text := (argumentOf? given letter).getD "10"
  let (fromOther, unsigned) :=
    match text.toList with
    | c :: rest => if c == sign then (true, String.ofList rest) else (false, text)
    | [] => (false, text)
  let unsigned :=
    if sign == '+' && !fromOther && unsigned.startsWith "-" then
      String.ofList (unsigned.toList.drop 1)
    else unsigned
  match count? unsigned with
  | .ok count => pure { ofBytes := letter == 'c', count, fromOther, lineEnd }
  | .error reason =>
      let what := if letter == 'c' then "bytes" else "lines"
      let reason := if reason == Quoted.plain unsigned then Quoted.plain text else reason
      .error s!"invalid number of {what}: {reason}"

/-- Copy the start of files. -/
def head : Program := fun launch =>
  withOptions partOptions 1 (fun launch given operands => do
    match shareOf given '-' with
    | .error reason => fail launch.name reason 1
    | .ok share =>
        copyParts launch.name (copyStart launch.name share) (wantsHeaders given operands) 0 true
          (orInput operands)) { launch with args := spellNumber launch.args }

/-! ## The end of files -/

/-- Copy the end of an input. -/
def copyEnd
    (name : Octets)
    (share : Share)
    (descriptor : Nat) : Act (Except Fault Bool) := do
  match ← readAll descriptor with
  | .error fault => pure (.error fault)
  | .ok bytes =>
      let place :=
        if !share.fromOther then share.placeFromEnd bytes
        else if share.ofBytes then share.count - 1
        else if share.count ≤ 1 then 0
        else (lineExtent bytes share.lineEnd (share.count - 1)).1
      pure (.ok (← emit name (bytes.extract place bytes.size)))

/-- Copy the end of files. -/
def tail : Program := fun launch =>
  withOptions partOptions 1 (fun launch given operands => do
    match shareOf given '+' with
    | .error reason => fail launch.name reason 1
    | .ok share => do
        let status ←
          copyParts launch.name (copyEnd launch.name share) (wantsHeaders given operands) 0 true
            (orInput operands)
        if isGiven given 'f' || isGiven given 'F' then Act.sleep none
        pure status) { launch with args := spellNumber launch.args }

/-! ## Several outputs -/

/-- Write bytes to some outputs, each with its name; the result is those that took them. -/
def writeEach
    (name : Octets)
    (bytes : ByteArray) :
    List (Nat × Octets) -> Act (List (Nat × Octets) × Bool)
  | [] => pure ([], true)
  | (descriptor, title) :: rest => do
      let written ← Act.call (.write descriptor bytes)
      let (others, allWell) ← writeEach name bytes rest
      match written with
      | .ok () => pure ((descriptor, title) :: others, allWell)
      | .error fault => do
          warn name s!"{title}: {fault.text}"
          pure (others, false)

/-- Copy the input to some outputs. -/
def spread (name : Octets) : Nat -> List (Nat × Octets) -> Nat -> Act Nat
  | 0, _, status => pure status
  | turns + 1, outputs, status => do
      if outputs.isEmpty then pure status
      else
        match ← Act.call (.read 0 block) with
        | .error fault => fail name s!"read error: {fault.text}" 1
        | .ok bytes =>
            if bytes.isEmpty then pure status
            else
              let (outputs, allWell) ← writeEach name bytes outputs
              spread name turns outputs (if allWell then status else 1)

/-- Open the outputs that some paths name. -/
def openOutputs
    (name : Octets)
    (purpose : Purpose) :
    List Octets -> Act (List (Nat × Octets) × Nat)
  | [] => pure ([], 0)
  | path :: rest => do
      match ← Act.call (.open path purpose) with
      | .ok descriptor => do
          let (others, status) ← openOutputs name purpose rest
          pure ((descriptor, Quoted.wordIfNeeded path) :: others, status)
      | .error fault => do
          warn name s!"{Quoted.wordIfNeeded path}: {fault.text}"
          let (others, _) ← openOutputs name purpose rest
          pure (others, 1)

/-- Copy the input to the output and to files. -/
def tee : Program :=
  withOptions
    { letters := [('a', .nothing), ('i', .nothing), ('p', .nothing)]
      words := [("append", 'a', .nothing), ("ignore-interrupts", 'i', .nothing)] } 1
    fun launch given operands => do
      if isGiven given 'i' then Act.call (.dispose .interrupt .ignored)
      let purpose := if isGiven given 'a' then Purpose.appending else .writing
      let (outputs, status) ← openOutputs launch.name purpose operands
      spread launch.name manyTurns ((1, "'standard output'") :: outputs) status

/-! ## Lines backwards -/

/-- Read some inputs completely, one after another; what cannot be read is complained about. -/
def gather
    (complain : Octets -> Fault -> Act Unit) :
    List Octets -> Act (List Octets × Nat)
  | [] => pure ([], 0)
  | operand :: rest => do
      let refuse (fault : Fault) : Act (List Octets × Nat) := do
        complain operand fault
        let (others, _) ← gather complain rest
        pure (others, 1)
      match ← openInput operand with
      | .error fault => refuse fault
      | .ok descriptor => do
          let found ← readAll descriptor
          closeInput descriptor
          match found with
          | .error fault => refuse fault
          | .ok bytes => do
              let (others, status) ← gather complain rest
              pure (Octets.ofBytes bytes :: others, status)

/-- Copy files with the characters of each line in reverse order. -/
def rev : Program :=
  withOptions {} 1 fun launch _ operands => do
    let (texts, status) ←
      gather (fun operand fault => warn launch.name s!"cannot open {operand}: {fault.text}")
        (orInput operands)
    let turned := texts.map fun text =>
      let (lines, ended) := linesOf text
      let lines := lines.map fun line => String.ofList line.toList.reverse
      String.intercalate "\n" lines ++ (if ended then "\n" else "")
    printing launch.name (String.join turned) status

end Programs
end CameraFleet
