import CameraFleet.Digest.Basic
import CameraFleet.Number.Quantity
import CameraFleet.Programs.Copy

/-!
# Showing bytes

Bytes are shown as numbers or characters, a block of them in each line. A line
may be written in several ways, one below the other; the ways are spread out so
that what belongs together stands together. Blocks that repeat the one before
are left out.
-/

namespace CameraFleet
namespace Programs

open Host

namespace Dump

/-- How bytes are written. -/
inductive Way
  /-- As names of characters. -/
  | names
  /-- As characters. -/
  | chars
  /-- As numbers with a sign. -/
  | signed
  /-- As numbers without a sign. -/
  | unsigned
  /-- As octal numbers. -/
  | octal
  /-- As hexadecimal numbers. -/
  | hexadecimal
  /-- As numbers with a fraction. -/
  | fraction
  deriving Repr, DecidableEq

/-- A format: how many bytes are written together, and how. -/
structure Format where
  /-- The number of bytes. -/
  size : Nat
  /-- The way. -/
  way : Way
  /-- Whether the bytes follow as characters. -/
  trails : Bool := false
  deriving Repr, DecidableEq

/-- The width of what is written at once. -/
def Format.width (format : Format) : Nat :=
  let bits := 8 * format.size
  let digits (base : Nat) : Nat := (Nat.toDigits base (Nat.pow 2 bits - 1)).length
  match format.way with
  | .names | .chars => 3
  | .signed => (Nat.toDigits 10 (Nat.pow 2 (bits - 1))).length + 1
  | .unsigned => digits 10
  | .octal => digits 8
  | .hexadecimal => digits 16
  | .fraction => if format.size = 4 then 15 else 24

/-- The names of the first 33 characters. -/
def charNames : List Octets :=
  ["nul", "soh", "stx", "etx", "eot", "enq", "ack", "bel", "bs", "ht", "nl", "vt", "ff", "cr",
    "so", "si", "dle", "dc1", "dc2", "dc3", "dc4", "nak", "syn", "etb", "can", "em", "sub", "esc",
    "fs", "gs", "rs", "us", "sp"]

/-- The name of a character. -/
def nameOf (byte : Nat) : Octets :=
  let code := byte % 128
  if code = 127 then "del" else charNames.getD code (String.singleton (Char.ofNat code))

/-- A byte as a character. -/
def charOf (byte : Nat) : Octets :=
  let letters :=
    [(0, "\\0"), (7, "\\a"), (8, "\\b"), (9, "\\t"), (10, "\\n"), (11, "\\v"), (12, "\\f"),
      (13, "\\r")]
  match letters.lookup byte with
  | some text => text
  | none =>
      let c := Char.ofNat byte
      if Quoted.isPrintable c then String.singleton c else String.ofList (Quoted.octal c)

/-- The fewest digits from a number of digits on that read back as they should. -/
def shortest
    (isSame : Nat -> Nat -> Bool)
    (numerator denominator : Nat) : Nat -> Nat -> String
  | 0, digits => Quantity.general numerator denominator digits false
  | fuel + 1, digits =>
      let text := Quantity.general numerator denominator digits false
      match Quantity.ofText? text with
      | some (.finite _ n d) =>
          if isSame n d then text else shortest isSame numerator denominator fuel (digits + 1)
      | _ => text

/-- The number that the bits of a fraction stand for; the exponent takes up so many of them. -/
def fractionText (exponentBits fractionBits number : Nat) : Octets :=
  let fraction := number % Nat.pow 2 fractionBits
  let exponent := number / Nat.pow 2 fractionBits % Nat.pow 2 exponentBits
  let sign := if number / Nat.pow 2 (fractionBits + exponentBits) = 0 then "" else "-"
  let greatest := Nat.pow 2 exponentBits - 1
  if exponent = greatest then sign ++ (if fraction = 0 then "inf" else "nan")
  else
    let whole := if exponent = 0 then fraction else fraction + Nat.pow 2 fractionBits
    let shift : Int :=
      (max exponent 1 : Nat) - (Nat.pow 2 (exponentBits - 1) - 1 : Nat) - (fractionBits : Int)
    let (n, d) :=
      match shift with
      | .ofNat up => (whole * Nat.pow 2 up, 1)
      | .negSucc down => (whole, Nat.pow 2 (down + 1))
    if n = 0 then sign ++ "0"
    else
      let usual := if fractionBits = 23 then 6 else 15
      let start := if exponent = 0 then 1 else usual
      let isSame (n' d' : Nat) : Bool :=
        match shift with
        | .ofNat up => Number.roundDiv n' (d' * Nat.pow 2 up) == whole
        | .negSucc down => Number.roundDiv (n' * Nat.pow 2 (down + 1)) d' == whole
      sign ++ shortest isSame n d 20 start

/-- Bytes that are written together. -/
def Format.text
    (format : Format)
    (number : Nat) : Octets :=
  let digits (base : Nat) : Octets :=
    let text := String.ofList (Nat.toDigits base number)
    String.ofList (List.replicate (format.width - text.length) '0') ++ text
  match format.way with
  | .names => nameOf number
  | .chars => charOf number
  | .unsigned => toString number
  | .octal => digits 8
  | .hexadecimal => digits 16
  | .signed =>
      let bound := Nat.pow 2 (8 * format.size)
      if number < bound / 2 then toString number else toString ((number : Int) - bound)
  | .fraction => if format.size = 4 then fractionText 8 23 number else fractionText 11 52 number

/-- How bytes are shown. -/
structure Plan where
  /-- The formats. -/
  formats : List Format
  /-- The number of bytes in a line. -/
  width : Nat
  /-- The base of places; none if they are not shown. -/
  base : Option Nat := some 8
  /-- Whether blocks that repeat the one before are shown. -/
  showsAll : Bool := false
  /-- The order of the bytes of a number. -/
  order : Digest.ByteOrder := .littleEndian

namespace Plan

/-- The width of a place. -/
def placeWidth (plan : Plan) : Nat :=
  match plan.base with
  | none => 0
  | some 16 => 6
  | some _ => 7

/-- A place. -/
def place (plan : Plan) (number : Nat) : Octets :=
  match plan.base with
  | none => ""
  | some base =>
      let text := String.ofList (Nat.toDigits base number)
      String.ofList (List.replicate (plan.placeWidth - text.length) '0') ++ text

/-- The width of a whole line. -/
def lineWidth (plan : Plan) : Nat :=
  plan.formats.foldl (fun width format =>
    max width ((format.width + 1) * (plan.width / format.size))) 0

/-- So many blanks. -/
def blanks (count : Nat) : Octets :=
  String.ofList (List.replicate count ' ')

/-- The characters of a block. -/
def trailer (block : ByteArray) : Octets :=
  let shown := block.data.toList.map fun byte =>
    let c := Char.ofNat byte.toNat
    if Quoted.isPrintable c then c else '.'
  "  >" ++ String.ofList shown ++ "<"

/-- A block in a format. -/
def formatted
    (plan : Plan)
    (format : Format)
    (block : ByteArray) : Octets :=
  let fields := plan.width / format.size
  let missing := (plan.width - block.size) / format.size
  let padding := plan.lineWidth - format.width * fields
  let text := String.join ((List.range (fields - missing)).map fun field =>
    let before := padding * (fields - field) / fields
    let after := padding * (fields - field - 1) / fields
    let text := format.text (plan.order.number block (field * format.size) format.size)
    blanks (before - after + format.width - text.length) ++ text)
  let ending :=
    if format.trails then
      blanks (missing * format.width + padding * missing / fields) ++ trailer block
    else ""
  text ++ ending ++ "\n"

/-- The lines of a block that starts at a place. -/
def lines
    (plan : Plan)
    (start : Nat)
    (block : ByteArray) : Octets :=
  String.join (plan.formats.zipIdx.map fun (format, number) =>
    (if number = 0 then plan.place start else blanks plan.placeWidth) ++
      plan.formatted format block)

/-- The lines of some bytes from a place on; the block before may have been repeated. -/
def linesFrom
    (plan : Plan)
    (bytes : ByteArray)
    (shift : Nat) :
    Nat -> Nat -> Option ByteArray -> Bool -> List Octets
  | 0, _, _, _ => []
  | fuel + 1, start, before, repeats =>
      if bytes.size ≤ start then
        match plan.base with
        | none => []
        | some _ => [plan.place (shift + start) ++ "\n"]
      else
        let block := bytes.extract start (start + plan.width)
        let isSame := !plan.showsAll && block.size == plan.width &&
          before.any fun other => other.data == block.data
        let next := start + block.size
        if isSame then
          (if repeats then [] else ["*\n"]) ++ linesFrom plan bytes shift fuel next before true
        else
          plan.lines (shift + start) block ::
            linesFrom plan bytes shift fuel next (some block) false

/-- The text of some bytes whose first one has a place. -/
def text
    (plan : Plan)
    (bytes : ByteArray)
    (shift : Nat) : Octets :=
  String.join (plan.linesFrom bytes shift (bytes.size + 2) 0 none false)

end Plan

/-! ## Formats -/

/-- The sizes that letters stand for. -/
def sizeLetters : List (Char × Nat) :=
  [('C', 1), ('S', 2), ('I', 4), ('L', 8)]

/-- The sizes of fractions that letters stand for. -/
def fractionLetters : List (Char × Nat) :=
  [('F', 4), ('D', 8), ('L', 16)]

/-- The size at the start of some characters, and the characters after it. -/
def takeSize
    (letters : List (Char × Nat))
    (usual : Nat)
    (chars : List Char) : Nat × List Char :=
  let digits := chars.takeWhile Char.isDigit
  match natural? (String.ofList digits), chars with
  | some size, _ => (size, chars.drop digits.length)
  | none, c :: rest =>
      match letters.lookup c with
      | some size => (size, rest)
      | none => (usual, chars)
  | none, [] => (usual, [])

/-- The formats that a text describes, or what is wrong with it; the number bounds the steps. -/
def readFormats (text : Octets) : Nat -> List Char -> Except Octets (List Format)
  | 0, _ => .ok []
  | _ + 1, [] => .ok []
  | fuel + 1, letter :: rest => do
      let wholes := [('d', Way.signed), ('u', .unsigned), ('o', .octal), ('x', .hexadecimal)]
      let (format, rest) ←
        if letter == 'a' then pure (({ size := 1, way := .names } : Format), rest)
        else if letter == 'c' then pure (({ size := 1, way := .chars } : Format), rest)
        else if letter == 'f' then
          let (size, rest) := takeSize fractionLetters 8 rest
          if size = 4 || size = 8 then pure (({ size, way := .fraction } : Format), rest)
          else
            throw (s!"invalid type string {Quoted.plain text};\nthis system doesn't provide a " ++
              s!"{size}-byte floating point type")
        else
          match wholes.lookup letter with
          | none =>
              let shown := Quoted.plain (String.singleton letter)
              throw s!"invalid character {shown} in type string {Quoted.plain text}"
          | some way =>
              let (size, rest) := takeSize sizeLetters 4 rest
              if [1, 2, 4, 8].contains size then pure (({ size, way } : Format), rest)
              else
                throw (s!"invalid type string {Quoted.plain text};\nthis system doesn't " ++
                  s!"provide a {size}-byte integral type")
      let (format, rest) :=
        match rest with
        | 'z' :: rest => ({ format with trails := true }, rest)
        | rest => (format, rest)
      pure (format :: (← readFormats text fuel rest))

/-- The texts of the formats that letters alone stand for. -/
def shortForms : List (Char × Octets) :=
  [('a', "a"), ('b', "o1"), ('c', "c"), ('D', "u4"), ('d', "u2"), ('F', "fD"), ('e', "fD"),
    ('f', "fF"), ('H', "x4"), ('X', "x4"), ('i', "dI"), ('I', "dL"), ('L', "dL"), ('l', "dL"),
    ('O', "o4"), ('B', "o2"), ('o', "o2"), ('s', "d2"), ('h', "x2"), ('x', "x2")]

/-- The formats that options ask for, or what is wrong with them. -/
def formatsOf (given : List Given) : Except Octets (List Format) := do
  let texts := given.filterMap fun option =>
    if option.letter == 't' then option.argument else shortForms.lookup option.letter
  let formats ← texts.mapM fun text => readFormats text (text.length + 1) text.toList
  pure (if formats.flatten.isEmpty then [{ size := 2, way := .octal }] else formats.flatten)

/-- A number of bytes, which may be octal or hexadecimal and have a suffix. -/
def amount? (text : Octets) : Option Nat :=
  let (number?, rest) :=
    match text.toList with
    | '0' :: 'x' :: rest | '0' :: 'X' :: rest =>
        let (digits, rest) := Numeral.digits 16 rest
        (if digits.isEmpty then none else some (Numeral.valueOf 16 digits), rest)
    | '0' :: rest =>
        let (digits, rest) := Numeral.digits 8 rest
        (some (Numeral.valueOf 8 digits), rest)
    | chars =>
        let (digits, rest) := Numeral.digits 10 chars
        (if digits.isEmpty then none else some (Numeral.valueOf 10 digits), rest)
  match number?, suffixes.lookup (String.ofList rest) with
  | some number, some factor => some (number * factor)
  | _, _ => none

/-- The amount that an option gives, or what is wrong with it. -/
def amountOf
    (given : List Given)
    (letter : Char) : Except Octets (Option Nat) :=
  match argumentOf? given letter with
  | none => .ok none
  | some text =>
      match amount? text with
      | some amount => .ok (some amount)
      | none => .error s!"invalid -{letter} argument {Quoted.plain text}"

/-- How bytes are shown, and a warning; or what is wrong with the options. -/
def planOf (given : List Given) : Except Octets (Plan × Option Octets) := do
  let radix := (argumentOf? given 'A').getD "o"
  let base ←
    match radix.toList.head? with
    | some 'd' => pure (some 10)
    | some 'o' => pure (some 8)
    | some 'x' => pure (some 16)
    | some 'n' => pure none
    | _ =>
        let shown := Quoted.plain (String.ofList (radix.toList.take 1))
        throw s!"invalid output address radix {shown}; it must be one character from [doxn]"
  let formats ← formatsOf given
  let unit := formats.foldl (fun unit format => Nat.lcm unit format.size) 1
  let wanted ← if isGiven given 'w' then amountOf given 'w' else pure none
  let usual := max unit (16 / unit * unit)
  let order : Digest.ByteOrder :=
    if argumentOf? given 'E' == some "big" then .bigEndian else .littleEndian
  let wanted := if isGiven given 'w' && wanted.isNone then some 32 else wanted
  let isFitting (width : Nat) : Bool := width != 0 && width % unit = 0
  let warning :=
    (wanted.filter fun width => !isFitting width).map fun width =>
      s!"warning: invalid width {width}; using {unit} instead"
  let width :=
    match wanted with
    | none => usual
    | some width => if isFitting width then width else unit
  pure ({ formats, width, base, showsAll := isGiven given 'v', order }, warning)

/-- The options. -/
def options : OptionTable where
  letters :=
    (shortForms.map fun entry => (entry.1, Taking.nothing)) ++
      [('v', .nothing), ('A', .something), ('j', .something), ('N', .something),
        ('t', .something), ('w', .perhaps)]
  words :=
    [("address-radix", 'A', .something), ("endian", 'E', .something), ("format", 't', .something),
      ("output-duplicates", 'v', .nothing), ("read-bytes", 'N', .something),
      ("skip-bytes", 'j', .something), ("width", 'w', .perhaps)]

/-- Read on until there are so many bytes, or all. -/
def readUpTo
    (most : Option Nat)
    (descriptor : Nat) : Nat -> ByteArray -> Act (Except Fault ByteArray)
  | 0, sofar => pure (.ok sofar)
  | turns + 1, sofar => do
      if most.any (· ≤ sofar.size) then pure (.ok sofar)
      else
        let portion := (most.map fun most => min block (most - sofar.size)).getD block
        match ← Act.call (.read descriptor portion) with
        | .error fault => pure (.error fault)
        | .ok bytes =>
            if bytes.isEmpty then pure (.ok sofar)
            else readUpTo most descriptor turns (sofar ++ bytes)

/--
So many bytes of some inputs, or all, after those before; and a status. None if
no input can be read.
-/
def readInputs
    (name : Octets)
    (most : Option Nat) :
    List Octets -> Option ByteArray -> Nat -> Act (Option ByteArray × Nat)
  | [], sofar, status => pure (sofar, status)
  | operand :: rest, sofar, status => do
      let refuse (fault : Fault) : Act (Option ByteArray × Nat) := do
        warn name s!"{Quoted.wordIfNeeded operand}: {fault.text}"
        readInputs name most rest sofar 1
      match ← openInput operand with
      | .error fault => refuse fault
      | .ok descriptor => do
          let found ← readUpTo most descriptor manyTurns (sofar.getD .empty)
          closeInput descriptor
          match found with
          | .error fault => refuse fault
          | .ok sofar => readInputs name most rest (some sofar) status

/-- Whether a path leads to a device, in which any place can be skipped to. -/
def isDevice (path : Octets) : Act Bool := do
  match ← Act.call (.look path true) with
  | .ok sight =>
      match sight.kind with
      | .entry (.device _) => pure true
      | _ => pure false
  | .error _ => pure false

/-- The operands of which the last one says where to start are taken apart. -/
def splitOperands
    (given : List Given)
    (operands : List Octets) : List Octets × Option Nat :=
  let isPlain := !(["A", "j", "N", "t", "v", "w"].any fun text =>
    text.toList.any (isGiven given))
  let offset? (text : Octets) : Option Nat :=
    let text := if text.startsWith "+" then String.ofList (text.toList.drop 1) else text
    let (text, factor) :=
      if text.endsWith "b" && !text.startsWith "0x" then
        (String.ofList text.toList.dropLast, 512)
      else (text, 1)
    let isDecimal := text.endsWith "."
    let digits := if isDecimal then text.toList.dropLast else text.toList
    let (base, digits) :=
      match digits with
      | '0' :: 'x' :: rest => (16, rest)
      | digits => (if isDecimal then 10 else 8, digits)
    match Numeral.digits base digits with
    | (found, []) => if found.isEmpty then none else some (Numeral.valueOf base found * factor)
    | _ => none
  let isOffset (text : Octets) : Bool :=
    text.startsWith "+" || (operands.length == 2 && text.toList.head?.any Char.isDigit)
  match operands.getLast? with
  | some last =>
      if isPlain && operands.length ≤ 2 && isOffset last then
        match offset? last with
        | some offset => (operands.dropLast, some offset)
        | none => (operands, none)
      else (operands, none)
  | none => (operands, none)

end Dump

/-- Show bytes. -/
def od : Program :=
  withOptions Dump.options 1 fun launch given operands => do
    let order := argumentOf? given 'E'
    if order.any fun text => text != "big" && text != "little" then
      let shown := Quoted.plain (order.getD "")
      misuse launch.name
        s!"invalid argument {shown} for '--endian'\nValid arguments are:\n  - 'little'\n  - 'big'" 1
    else
      match Dump.planOf given, Dump.amountOf given 'j', Dump.amountOf given 'N' with
      | .error reason, _, _ | _, .error reason, _ | _, _, .error reason =>
          fail launch.name reason 1
      | .ok (plan, warning), .ok skipped, .ok most => do
          let (operands, offset) := Dump.splitOperands given operands
          let skipped := (offset.or skipped).getD 0
          match warning with
          | some text => warn launch.name text
          | none => pure ()
          let inputs := orInput operands
          let (found, status) ←
            Dump.readInputs launch.name (most.map (skipped + ·)) inputs none 0
          let skipsAny ← inputs.anyM Dump.isDevice
          match found with
          | none => pure status
          | some bytes =>
              if bytes.size < skipped && !skipsAny then
                fail launch.name "cannot skip past end of combined input" 1
              else
                let stop := (most.map (skipped + ·)).getD bytes.size
                printing launch.name (plan.text (bytes.extract skipped stop) skipped) status

end Programs
end CameraFleet
