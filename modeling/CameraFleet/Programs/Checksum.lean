import CameraFleet.Digest.Blake2
import CameraFleet.Digest.Older
import CameraFleet.Programs.Copy
import CameraFleet.Text.Padding

/-!
# Checksums

The digests of files are printed, each with the name of its file, or files are
checked against such lines.
-/

namespace CameraFleet
namespace Programs

open Host

namespace Checksum

/-- A kind of digest. -/
structure Algorithm where
  /-- Its name. -/
  name : Octets
  /-- The number of its bytes. -/
  size : Nat
  /-- The digest of some bytes. -/
  digest : ByteArray -> List UInt8

/-- MD5. -/
def md5 : Algorithm := ⟨"MD5", 16, Digest.Md5.digest⟩

/-- SHA-1. -/
def sha1 : Algorithm := ⟨"SHA1", 20, Digest.Sha1.digest⟩

/-- SHA-2 with 28 bytes. -/
def sha224 : Algorithm := ⟨"SHA224", 28, Digest.Sha2.digest224⟩

/-- SHA-2 with 32 bytes. -/
def sha256 : Algorithm := ⟨"SHA256", 32, Digest.Sha2.digest256⟩

/-- SHA-2 with 48 bytes. -/
def sha384 : Algorithm := ⟨"SHA384", 48, Digest.Sha2.digest384⟩

/-- SHA-2 with 64 bytes. -/
def sha512 : Algorithm := ⟨"SHA512", 64, Digest.Sha2.digest512⟩

/-- BLAKE2b with so many bytes. -/
def blake2 (size : Nat) : Algorithm :=
  let name := if size = 64 then "BLAKE2b" else s!"BLAKE2b-{size * 8}"
  ⟨name, size, Digest.Blake2.digest size⟩

/-- The kinds of digests, by the names that options give them. -/
def algorithms : List (Octets × Algorithm) :=
  [("md5", md5), ("sha1", sha1), ("sha224", sha224), ("sha256", sha256), ("sha384", sha384),
    ("sha512", sha512), ("blake2b", blake2 64)]

/-- Whether a name is written with backslashes in a line. -/
def needsEscape (name : Octets) : Bool :=
  name.any fun c => c == '\\' || c == '\n' || c == '\r'

/-- A name as it is written in a line. -/
def escaped (name : Octets) : Octets :=
  String.ofList (name.toList.flatMap fun c =>
    if c == '\\' then ['\\', '\\']
    else if c == '\n' then ['\\', 'n']
    else if c == '\r' then ['\\', 'r']
    else [c])

/-- The name that is written in a line, if backslashes are used as they should. -/
def unescaped? : List Char -> Option (List Char)
  | [] => some []
  | '\\' :: '\\' :: rest => (unescaped? rest).map ('\\' :: ·)
  | '\\' :: 'n' :: rest => (unescaped? rest).map ('\n' :: ·)
  | '\\' :: 'r' :: rest => (unescaped? rest).map ('\r' :: ·)
  | c :: rest => if c == '\\' then none else (unescaped? rest).map (c :: ·)

/-- How lines are written. -/
structure Style where
  /-- Whether the kind of digest is named. -/
  tagged : Bool := false
  /-- Whether files are marked as binary. -/
  binary : Bool := false
  /-- Whether lines end with a zero byte. -/
  zero : Bool := false

/-- The line of a file. -/
def Style.line
    (style : Style)
    (algorithm : Algorithm)
    (bytes : ByteArray)
    (name : Octets) : Octets :=
  let digits := Digest.hexadecimal (algorithm.digest bytes)
  let escapes := !style.zero && needsEscape name
  let shown := if escapes then escaped name else name
  let lead := if escapes then "\\" else ""
  let ending := if style.zero then "\x00" else "\n"
  if style.tagged then lead ++ s!"{algorithm.name} ({shown}) = {digits}" ++ ending
  else lead ++ digits ++ (if style.binary then " *" else "  ") ++ shown ++ ending

/-- Everything in the input of an operand, or why it cannot be read. -/
def readInput (operand : Octets) : Act (Except Fault ByteArray) := do
  match ← openInput operand with
  | .error fault => pure (.error fault)
  | .ok descriptor => do
      let found ← readAll descriptor
      closeInput descriptor
      pure found

/-- Print a text for each input; the status says whether that could be done. -/
def describeEach
    (name : Octets)
    (describe : Octets -> ByteArray -> Octets) : List Octets -> Act Nat
  | [] => pure 0
  | operand :: rest => do
      match ← readInput operand with
      | .error fault => do
          warn name s!"{Quoted.wordIfNeeded operand}: {fault.text}"
          let _ ← describeEach name describe rest
          pure 1
      | .ok bytes => do
          if ← emit name (Octets.toBytes (describe operand bytes)) then
            describeEach name describe rest
          else pure 1

/-! ## Checking -/

/-- What a line says about a file. -/
structure Claim where
  /-- The file. -/
  name : Octets
  /-- Whether its name is written with backslashes. -/
  escapes : Bool
  /-- The digest in hexadecimal digits. -/
  digits : Octets
  /-- The kind of digest. -/
  algorithm : Algorithm

/-- Whether a character is a hexadecimal digit. -/
def isHexadecimal (c : Char) : Bool :=
  c.isDigit || ('a' ≤ c.toLower && c.toLower ≤ 'f')

/-- A claim about a file whose name is written in a line. -/
def claim?
    (escapes : Bool)
    (digits name : List Char)
    (algorithm : Algorithm) : Option Claim :=
  let name? := if escapes then unescaped? name else some name
  if digits.length == 2 * algorithm.size && digits.all isHexadecimal then
    name?.map fun name =>
      { name := String.ofList name, escapes, digits := String.ofList digits, algorithm }
  else none

/-- The kind of digest of a tag, with the characters after it. -/
def afterTag?
    (known : List Algorithm)
    (chars : List Char) : Option (Algorithm × List Char) :=
  let tag := chars.takeWhile fun c => c != ' ' && c != '('
  (known.find? fun algorithm => algorithm.name.toList == tag).map fun algorithm =>
    (algorithm, chars.drop tag.length)

/-- A claim that starts with a name in parentheses. -/
def readTagged
    (escapes : Bool)
    (algorithm : Algorithm)
    (chars : List Char) : Option Claim :=
  match if chars.head? == some ' ' then chars.drop 1 else chars with
  | '(' :: rest =>
      let ending := rest.reverse.takeWhile (· != ')')
      let name := (rest.take (rest.length - ending.length - 1))
      let digits := (ending.reverse.dropWhile (· == ' ')).drop 1
      if ending.length < rest.length && (ending.reverse.dropWhile (· == ' ')).head? == some '=' then
        claim? escapes (digits.dropWhile (· == ' ')) name algorithm
      else none
  | _ => none

/-- A claim that starts with digits; the line may have one blank after them, or two. -/
def readDigits
    (escapes single : Bool)
    (algorithm : Algorithm)
    (chars : List Char) : Option (Claim × Bool) :=
  let digits := chars.takeWhile isHexadecimal
  match chars.drop digits.length with
  | blank :: rest =>
      if blank != ' ' && blank != '\t' then none
      else
        match rest with
        | mark :: name =>
            if !single && (mark == ' ' || mark == '*') && !name.isEmpty then
              (claim? escapes digits name algorithm).map fun claim => (claim, false)
            else (claim? escapes digits rest algorithm).map fun claim => (claim, true)
        | [] => none
  | [] => none

/-- What a line says, if anything, and whether lines like it have a single blank. -/
def readClaim
    (known : List Algorithm)
    (usual : Option Algorithm)
    (single : Bool)
    (line : Octets) : Option (Claim × Bool) :=
  let chars := line.toList.dropWhile fun c => c == ' ' || c == '\t'
  let (escapes, chars) :=
    match chars with
    | '\\' :: rest => (true, rest)
    | chars => (false, chars)
  match afterTag? known chars with
  | some (algorithm, rest) => (readTagged escapes algorithm rest).map fun claim => (claim, single)
  | none => usual.bind fun algorithm => readDigits escapes single algorithm chars

/-- How files are checked. -/
structure Checking where
  /-- The kinds of digests that lines may name. -/
  known : List Algorithm
  /-- The kind of digest of lines that name none. -/
  usual : Option Algorithm
  /-- Whether nothing is said about files. -/
  silent : Bool := false
  /-- Whether nothing is said about files that are as they should be. -/
  quiet : Bool := false
  /-- Whether lines that make no sense are named. -/
  warns : Bool := false
  /-- Whether such lines count as failures. -/
  strict : Bool := false
  /-- Whether files that are not there do not count. -/
  lenient : Bool := false

/-- What has come out of checking. -/
structure Tally where
  /-- The number of lines that make sense. -/
  proper : Nat := 0
  /-- The number of those that do not. -/
  improper : Nat := 0
  /-- The number of files that cannot be read. -/
  unread : Nat := 0
  /-- The number of files that are not as they should be. -/
  wrong : Nat := 0
  /-- The number of files that are. -/
  right : Nat := 0
  /-- Whether lines have a single blank. -/
  single : Bool := false

/-- Check the file of a claim. -/
def Checking.checkFile
    (checking : Checking)
    (name : Octets)
    (claim : Claim)
    (tally : Tally) : Act Tally := do
  let shown := if claim.escapes then "\\" ++ escaped claim.name else claim.name
  let tally := { tally with proper := tally.proper + 1 }
  let say (isWanted : Bool) (text : Octets) : Act Unit := do
    if isWanted then
      let _ ← emit name (Octets.toBytes text)
  match ← readInput claim.name with
  | .error fault => do
      if fault == .missing && checking.lenient then pure tally
      else
        warn name s!"{Quoted.wordIfNeeded claim.name}: {fault.text}"
        say (!checking.silent) s!"{shown}: FAILED open or read\n"
        pure { tally with unread := tally.unread + 1 }
  | .ok bytes =>
      let digits := Digest.hexadecimal (claim.algorithm.digest bytes)
      if digits == claim.digits.toLower then
        say (!checking.silent && !checking.quiet) s!"{shown}: OK\n"
        pure { tally with right := tally.right + 1 }
      else
        say (!checking.silent) s!"{shown}: FAILED\n"
        pure { tally with wrong := tally.wrong + 1 }

/-- Check the files that lines are about. -/
def Checking.checkLines
    (checking : Checking)
    (name source : Octets) : Nat -> List Octets -> Tally -> Act Tally
  | _, [], tally => pure tally
  | number, line :: rest, tally => do
      let line := if line.endsWith "\r" then String.ofList line.toList.dropLast else line
      if line.isEmpty || line.startsWith "#" then
        checking.checkLines name source (number + 1) rest tally
      else
        match readClaim checking.known checking.usual tally.single line with
        | some (claim, single) => do
            let tally ← checking.checkFile name claim { tally with single }
            checking.checkLines name source (number + 1) rest tally
        | none => do
            if checking.warns then
              let kind := (checking.usual.map (·.name)).getD "CRC"
              warn name s!"{source}: {number}: improperly formatted {kind} checksum line"
            checking.checkLines name source (number + 1) rest
              { tally with improper := tally.improper + 1 }

/-- A number of things with one of two wordings. -/
def counted (count : Nat) (one many : Octets) : Octets :=
  let what := if count = 1 then one else many
  s!"WARNING: {count} {what}"

/-- Complain about what has come out of checking; whether all is as it should be. -/
def Checking.conclude
    (checking : Checking)
    (name source : Octets)
    (tally : Tally) : Act Bool := do
  if tally.proper = 0 then
    warn name s!"{source}: no properly formatted checksum lines found"
    pure false
  else
    if !checking.silent then
      if tally.improper != 0 then
        warn name (counted tally.improper "line is improperly formatted"
          "lines are improperly formatted")
      if tally.unread != 0 then
        warn name (counted tally.unread "listed file could not be read"
          "listed files could not be read")
      if tally.wrong != 0 then
        warn name (counted tally.wrong "computed checksum did NOT match"
          "computed checksums did NOT match")
      if checking.lenient && tally.right = 0 then warn name s!"{source}: no file was verified"
    pure (tally.right != 0 && tally.wrong = 0 && tally.unread = 0 &&
      (!checking.strict || tally.improper = 0))

/-- Check the files that the lines of some inputs are about. -/
def Checking.checkEach
    (checking : Checking)
    (name : Octets) : List Octets -> Act Nat
  | [] => pure 0
  | operand :: rest => do
      let source := Quoted.wordIfNeeded (if operand == "-" then "standard input" else operand)
      match ← readInput operand with
      | .error fault => do
          warn name s!"{source}: {fault.text}"
          let _ ← checking.checkEach name rest
          pure 1
      | .ok bytes => do
          let lines := (linesOf (Octets.ofBytes bytes)).1
          let tally ← checking.checkLines name source 1 lines {}
          let isRight ← checking.conclude name source tally
          let status ← checking.checkEach name rest
          pure (if isRight then status else 1)

/-! ## Options -/

/-- The options that all such programs have. -/
def commonWords : List (Octets × Char × Taking) :=
  [("check", 'c', .nothing), ("warn", 'w', .nothing), ("zero", 'z', .nothing),
    ("tag", 'T', .nothing), ("ignore-missing", 'I', .nothing), ("quiet", 'q', .nothing),
    ("status", 's', .nothing), ("strict", 'S', .nothing)]

/-- What is wrong with the options of checking, if anything. -/
def conflict? (given : List Given) : Option Octets :=
  let any (letter : Char) : Bool := isGiven given letter
  let onlyChecking :=
    [('I', "ignore-missing"), ('s', "status"), ('w', "warn"), ('q', "quiet"), ('S', "strict")]
  if any 'T' && any 'c' then some "the --tag option is meaningless when verifying checksums"
  else if any 'z' && any 'c' then
    some "the --zero option is not supported when verifying checksums"
  else if (any 'b' || any 't') && any 'c' then
    some "the --binary and --text options are meaningless when verifying checksums"
  else if any 'c' then none
  else
    (onlyChecking.find? fun entry => any entry.1).map fun entry =>
      s!"the --{entry.2} option is meaningful only when verifying checksums"

/-- How files are checked, by the options. -/
def checkingOf
    (given : List Given)
    (known : List Algorithm)
    (usual : Option Algorithm) : Checking where
  known
  usual
  silent := isGiven given 's'
  quiet := isGiven given 'q'
  warns := isGiven given 'w'
  strict := isGiven given 'S'
  lenient := isGiven given 'I'

/-- Print the digests of files, or check them. -/
def run
    (algorithm : Algorithm)
    (launch : Launch)
    (given : List Given)
    (operands : List Octets) : Act Nat := do
  match conflict? given with
  | some reason => misuse launch.name reason 1
  | none => do
      let inputs := orInput operands
      if isGiven given 'c' then
        (checkingOf given [algorithm] (some algorithm)).checkEach launch.name inputs
      else
        let style : Style :=
          { tagged := isGiven given 'T', zero := isGiven given 'z'
            binary := lastOf? given ['b', 't'] == some 'b' }
        let describe (name : Octets) (bytes : ByteArray) : Octets :=
          style.line algorithm bytes name
        describeEach launch.name describe inputs

/-- Print the digests of one kind, or check them. -/
def program (algorithm : Algorithm) : Program :=
  withOptions
    { letters := ['b', 'c', 't', 'w', 'z'].map fun letter => (letter, .nothing)
      words := ("binary", 'b', .nothing) :: ("text", 't', .nothing) :: commonWords } 1
    (run algorithm)

/-- The number of bytes of a digest that an option asks for in bits, or what is wrong with it. -/
def sizeOf (given : List Given) : Except (List Octets) Nat :=
  match argumentOf? given 'l' with
  | none => .ok 64
  | some text =>
      let complaint := s!"invalid length: {Quoted.plain text}"
      match natural? text with
      | none => .error [complaint]
      | some bits =>
          if 512 < bits then
            .error [complaint, "maximum digest length for 'BLAKE2b' is 512 bits"]
          else if bits % 8 != 0 then .error [complaint, "length is not a multiple of 8"]
          else .ok (if bits = 0 then 64 else bits / 8)

end Checksum

/-- Print digests of a length that can be chosen, or check them. -/
def b2sum : Program :=
  withOptions
    { letters :=
        ('l', .something) :: ['b', 'c', 't', 'w', 'z'].map fun letter => (letter, .nothing)
      words :=
        ("length", 'l', .something) :: ("binary", 'b', .nothing) :: ("text", 't', .nothing) ::
          Checksum.commonWords } 1
    fun launch given operands => do
      match Checksum.sizeOf given with
      | .error reasons => do
          for reason in reasons do
            warn launch.name reason
          pure 1
      | .ok size => Checksum.run (Checksum.blake2 size) launch given operands

/-- The line of a sum: the sum, the number of blocks, and the name of the file. -/
def sumLine
    (isFolded named : Bool)
    (operand : Octets)
    (bytes : ByteArray) : Octets :=
  let name := if named then " " ++ operand else ""
  if isFolded then s!"{Digest.Sum.folded bytes} {(bytes.size + 511) / 512}{name}\n"
  else
    let blocks := rightAligned 5 ((bytes.size + 1023) / 1024)
    Text.padded 5 (Digest.Sum.rotating bytes) ++ " " ++ blocks ++ name ++ "\n"

/-- Print plain sums of files. -/
def sum : Program :=
  withOptions
    { letters := [('r', .nothing), ('s', .nothing)], words := [("sysv", 's', .nothing)] } 1
    fun launch given operands => do
      let isFolded := lastOf? given ['r', 's'] == some 's'
      let describe := sumLine isFolded !operands.isEmpty
      Checksum.describeEach launch.name describe (orInput operands)

/-- The line of a file with the remainder of its bytes. -/
def remainderLine
    (named : Bool)
    (operand : Octets)
    (bytes : ByteArray) : Octets :=
  s!"{Digest.Sum.remainder bytes} {bytes.size}" ++
    (if named then " " ++ operand else "") ++ "\n"

/-- Print checksums of a kind that can be chosen. -/
def cksum : Program :=
  withOptions
    { letters :=
        [('a', .something), ('c', .nothing), ('l', .something), ('w', .nothing), ('z', .nothing)]
      words :=
        ("algorithm", 'a', .something) :: ("length", 'l', .something) ::
          ("untagged", 'U', .nothing) :: Checksum.commonWords } 1
    fun launch given operands => do
      let inputs := orInput operands
      let known := Checksum.algorithms.map (·.2)
      let kind := (argumentOf? given 'a').getD "crc"
      let isShort := ["bsd", "sysv", "crc"].contains kind
      let check (usual : Option Checksum.Algorithm) : Act Nat :=
        (Checksum.checkingOf given known usual).checkEach launch.name inputs
      if isShort then
        if (argumentOf? given 'l').isSome then
          fail launch.name "--length is only supported with --algorithm=blake2b" 1
        else if isGiven given 'c' then
          if isGiven given 'a' then
            fail launch.name
              "--check is not supported with --algorithm=\x7bbsd,sysv,crc\x7d" 1
          else check none
        else
          let describe :=
            if kind == "crc" then remainderLine !operands.isEmpty
            else sumLine (kind == "sysv") !operands.isEmpty
          Checksum.describeEach launch.name describe inputs
      else
        match Checksum.algorithms.lookup kind, Checksum.sizeOf given with
        | none, _ => do
            let names := ["bsd", "sysv", "crc"] ++ Checksum.algorithms.map (·.1) ++ ["sm3"]
            let shown := String.join (names.map fun name => s!"\n  - {Quoted.plain name}")
            misuse launch.name
              s!"invalid argument {Quoted.plain kind} for '--algorithm'\nValid arguments are:{shown}"
              1
        | _, .error reasons => do
            for reason in reasons do
              warn launch.name reason
            pure 1
        | some algorithm, .ok size => do
            let algorithm := if kind == "blake2b" then Checksum.blake2 size else algorithm
            if isGiven given 'c' then
              (Checksum.checkingOf given [algorithm] (some algorithm)).checkEach launch.name inputs
            else
              let style : Checksum.Style :=
                { tagged := !isGiven given 'U', zero := isGiven given 'z' }
              let describe (name : Octets) (bytes : ByteArray) : Octets :=
                style.line algorithm bytes name
              Checksum.describeEach launch.name describe inputs

end Programs
end CameraFleet
