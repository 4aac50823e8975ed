import CameraFleet.Programs.Copy
import CameraFleet.Programs.Print
import CameraFleet.Number.Quantity

/-!
# Sorting lines

Lines are compared by keys, one after another, and then as a whole. A key is a
part of a line together with a way to compare such parts.
-/

namespace CameraFleet
namespace Programs

open Host

/-- A key: a part of a line, and how it is compared. -/
structure SortKey where
  /-- The number of fields before it. -/
  field : Nat := 0
  /-- The number of characters of its first field before it. -/
  char : Nat := 0
  /-- The number of the field in which it ends, and of the characters of this field. -/
  limit : Option (Nat × Nat) := none
  /-- Whether blanks at the start of the first field do not count. -/
  skipsStart : Bool := false
  /-- Whether blanks at the start of the last field do not count. -/
  skipsEnd : Bool := false
  /-- The letters of the options that say how it is compared. -/
  letters : List Char := []
  deriving Repr, DecidableEq

/-- How lines are sorted. -/
structure SortOrder where
  /-- The keys. -/
  keys : List SortKey := []
  /-- The letters of the options that hold for all keys. -/
  letters : List Char := []
  /-- The character between fields. -/
  separator : Option Char := none
  deriving Repr, DecidableEq

namespace SortKey

/-- Whether a character is blank. -/
def isBlank (c : Char) : Bool :=
  c == ' ' || c == '\t' || c == '\n'

/-- The characters after so many fields. -/
def afterFields (separator : Option Char) : Nat -> List Char -> List Char
  | 0, chars => chars
  | count + 1, chars =>
      match separator with
      | some c => afterFields separator count ((chars.dropWhile (· != c)).drop 1)
      | none =>
          afterFields separator count
            ((chars.dropWhile isBlank).dropWhile fun c => !isBlank c)

/-- The number of characters up to the end of a field, without the separator after it. -/
def fieldEnd (separator : Option Char) (field : Nat) (chars : List Char) : Nat :=
  let before := afterFields separator (field - 1) chars
  let last :=
    match separator with
    | some c => before.dropWhile (· != c)
    | none => (before.dropWhile isBlank).dropWhile fun c => !isBlank c
  chars.length - last.length

/-- The place where a key ends in a line. -/
def limitIn (key : SortKey) (separator : Option Char) (chars : List Char) : Nat :=
  match key.limit with
  | none => chars.length
  | some (field, 0) => fieldEnd separator field chars
  | some (field, count) =>
      let start := afterFields separator (field - 1) chars
      let start := if key.skipsEnd then start.dropWhile isBlank else start
      min chars.length (chars.length - start.length + count)

/-- The part of a line that a key means. -/
def part (key : SortKey) (separator : Option Char) (line : Octets) : List Char :=
  let chars := line.toList
  let start := afterFields separator key.field chars
  let start := if key.skipsStart then start.dropWhile isBlank else start
  let place := chars.length - start.length + key.char
  (chars.take (key.limitIn separator chars)).drop place

/-- The number at the start of a text, after blanks: digits with a point among them. -/
def leadingNumber (text : List Char) : Int × Nat :=
  let chars := text.dropWhile isBlank
  let (negative, chars) :=
    match chars with
    | '-' :: rest => (true, rest)
    | _ => (false, chars)
  match Quantity.fraction? 10 chars with
  | some (digits, places, _) =>
      (if negative then -(digits : Int) else digits, Nat.pow 10 places)
  | none => (0, 1)

/-- The rank of the suffix after a number. -/
def suffixRank (text : List Char) : Nat :=
  let rest := text.dropWhile fun c => isBlank c || c == '-' || c.isDigit || c == '.'
  match rest with
  | c :: _ => ("KMGTPEZY".toList.idxOf? (if c == 'k' then 'K' else c)).elim 0 (· + 1)
  | [] => 0

/-- The number of a month, by the first letters of its name. -/
def monthNumber (text : List Char) : Nat :=
  let name := String.ofList (((text.dropWhile isBlank).take 3).map Char.toUpper)
  let months :=
    ["JAN", "FEB", "MAR", "APR", "MAY", "JUN", "JUL", "AUG", "SEP", "OCT", "NOV", "DEC"]
  (months.idxOf? name).elim 0 (· + 1)

/-- Compare two quotients. -/
def compareQuotients (a b : Int × Nat) : Ordering :=
  compare (a.1 * b.2) (b.1 * a.2)

/-- Compare two texts by their characters. -/
def compareChars (a b : List Char) : Ordering :=
  compare (String.ofList a) (String.ofList b)

/-- Compare two numbers with fractions; what is no number comes first. -/
def compareGeneral (a b : List Char) : Ordering :=
  match Quantity.read? a, Quantity.read? b with
  | none, none => .eq
  | none, some _ => .lt
  | some _, none => .gt
  | some (x, _), some (y, _) => compareQuotients x.quotient y.quotient

/-- The rank of a character of a version: the end comes after a tilde and before all others. -/
def versionRank (chars : List Char) : Int :=
  match chars with
  | [] => 0
  | c :: _ =>
      if c.isDigit then 0
      else if c == '~' then -1
      else if c.isAlpha then c.toNat
      else c.toNat + 256

/-- Compare two versions, in which texts and numbers take turns; the number bounds the steps. -/
def comparePieces : Nat -> List Char -> List Char -> Ordering
  | 0, _, _ => .eq
  | _ + 1, [], [] => .eq
  | fuel + 1, a, b =>
      let isText (chars : List Char) : Bool := chars.head?.any fun c => !c.isDigit
      if isText a || isText b then
        (compare (versionRank a) (versionRank b)).then (comparePieces fuel (a.drop 1) (b.drop 1))
      else
        let number (chars : List Char) : Nat :=
          ((String.ofList (chars.takeWhile Char.isDigit)).toNat?).getD 0
        (compare (number a) (number b)).then
          (comparePieces fuel (a.dropWhile Char.isDigit) (b.dropWhile Char.isDigit))

/-- Whether some characters are endings of names: dots, each with a letter after it. -/
def areEndings : Bool -> List Char -> Bool
  | afterDot, [] => !afterDot
  | afterDot, c :: rest =>
      if c == '.' then !afterDot && areEndings true rest
      else if afterDot then (c.isAlpha || c == '~') && areEndings false rest
      else (c.isAlphanum || c == '~') && areEndings false rest

/-- The part of a name before its endings. -/
def withoutEndings : List Char -> List Char
  | [] => []
  | c :: rest =>
      if rest.head? == some '.' && areEndings false rest then [c] else c :: withoutEndings rest

/-- Compare two names in which numbers count as such; those with a dot at the start come first. -/
def compareVersions (a b : List Char) : Ordering :=
  let isHidden (chars : List Char) : Bool := chars.head? == some '.'
  let compareAll (a b : List Char) : Ordering := comparePieces (a.length + b.length + 1) a b
  if a.isEmpty || b.isEmpty then compare a.length b.length
  else if isHidden a != isHidden b then if isHidden a then .lt else .gt
  else
    (compareAll (withoutEndings a) (withoutEndings b)).then (compareAll a b)

/-- Compare two parts of lines in the way that letters ask for. -/
def compareParts (letters : List Char) (a b : List Char) : Ordering :=
  let has (letter : Char) : Bool := letters.contains letter
  if has 'n' then compareQuotients (leadingNumber a) (leadingNumber b)
  else if has 'g' then compareGeneral a b
  else if has 'h' then
    let sign (n : Int) : Int := if n < 0 then -1 else 1
    let key (text : List Char) : Int :=
      let (n, _) := leadingNumber text
      if n = 0 then 0 else sign n * suffixRank text
    (compare (key a) (key b)).then (compareQuotients (leadingNumber a) (leadingNumber b))
  else if has 'M' then compare (monthNumber a) (monthNumber b)
  else if has 'V' then compareVersions a b
  else
    let counts (c : Char) : Bool :=
      (!has 'd' || isBlank c || c.isAlphanum) && (!has 'i' || (' ' ≤ c && c ≤ '~'))
    let image (c : Char) : Char := if has 'f' then c.toUpper else c
    compareChars ((a.filter counts).map image) ((b.filter counts).map image)

/-- Compare two lines by a key. -/
def compareLines (key : SortKey) (separator : Option Char) (a b : Octets) : Ordering :=
  let found := compareParts key.letters (key.part separator a) (key.part separator b)
  if key.letters.contains 'r' then found.swap else found

/-- A number at the start of a field specification, and the characters after it. -/
def countAt (text : Octets) (reason : Octets) : Except Octets (Nat × List Char) :=
  match Numeral.digits 10 text.toList with
  | ([], _) => .error s!"{reason}: invalid count at start of {Quoted.plain text}"
  | (found, rest) => .ok (Numeral.valueOf 10 found, rest)

/-- The number after a point, if there is one, and the characters after it. -/
def pointCount (chars : List Char) : Except Octets (Option Nat × List Char) :=
  match chars with
  | '.' :: rest => do
      let (count, rest) ← countAt (String.ofList rest) "invalid number after '.'"
      pure (some count, rest)
  | _ => pure (none, chars)

/-- Whether a letter says how a key is compared. -/
def isKeyLetter (c : Char) : Bool :=
  ['b', 'd', 'f', 'g', 'h', 'i', 'M', 'n', 'R', 'r', 'V'].contains c

/-- Read a field specification, or say what is wrong with it. -/
def read (text : Octets) : Except Octets SortKey := do
  let wrong (reason : String) : Octets :=
    s!"{reason}: invalid field specification {Quoted.plain text}"
  let (field, rest) ← countAt text "invalid number at field start"
  if field = 0 then throw (wrong "field number is zero")
  let (char?, rest) ← pointCount rest
  if char? == some 0 then throw (wrong "character offset is zero")
  let letters := rest.takeWhile isKeyLetter
  let rest := rest.dropWhile isKeyLetter
  let key : SortKey :=
    { field := field - 1, char := char?.getD 1 - 1, skipsStart := letters.contains 'b'
      letters := letters.filter (· != 'b') }
  match rest with
  | [] => pure key
  | ',' :: rest => do
      let (last, rest) ← countAt (String.ofList rest) "invalid number after ','"
      if last = 0 then throw (wrong "field number is zero")
      let (count?, rest) ← pointCount rest
      let more := rest.takeWhile isKeyLetter
      if !(rest.dropWhile isKeyLetter).isEmpty then
        throw (wrong "stray character in field spec")
      pure
        { key with
          limit := some (last, count?.getD 0), skipsEnd := more.contains 'b'
          letters := key.letters ++ more.filter (· != 'b') }
  | _ => throw (wrong "stray character in field spec")

end SortKey

namespace SortOrder

/-- The keys by which lines are compared; a key without options of its own takes the general ones. -/
def effectiveKeys (order : SortOrder) : List SortKey :=
  let general := order.letters.filter fun c => SortKey.isKeyLetter c && c != 'b'
  let skips := order.letters.contains 'b'
  let isBare (key : SortKey) : Bool := key.letters.isEmpty && !key.skipsStart && !key.skipsEnd
  if order.keys.isEmpty then
    if general.all (· == 'r') && !skips then []
    else [{ letters := general, skipsStart := skips }]
  else
    order.keys.map fun key =>
      if isBare key then { key with letters := general, skipsStart := skips, skipsEnd := skips }
      else key

/-- Compare two lines by the keys. -/
def compareKeys (order : SortOrder) (a b : Octets) : Ordering :=
  order.effectiveKeys.foldl
    (fun found key => found.then (key.compareLines order.separator a b)) .eq

/-- Compare two lines by the keys, and as a whole if they do not differ there. -/
def compareLines (order : SortOrder) (a b : Octets) : Ordering :=
  let byKeys := order.compareKeys a b
  let isLast := order.letters.contains 's' || order.letters.contains 'u'
  let whole :=
    if isLast && !order.effectiveKeys.isEmpty then .eq
    else if order.letters.contains 'r' then (compare a b).swap
    else compare a b
  byKeys.then whole

/-- Whether two lines count as one. -/
def areAlike (order : SortOrder) (a b : Octets) : Bool :=
  if order.effectiveKeys.isEmpty then a == b else order.compareKeys a b == .eq

/-- The lines without those that are like the line before. -/
def distinct (order : SortOrder) : List Octets -> List Octets
  | a :: b :: rest =>
      if order.areAlike a b then distinct order (a :: rest)
      else a :: distinct order (b :: rest)
  | lines => lines
  termination_by lines => lines.length

/-- Lines in order. -/
def sorted (order : SortOrder) (lines : List Octets) : List Octets :=
  let sorted := lines.mergeSort fun a b => order.compareLines a b != .gt
  if order.letters.contains 'u' then order.distinct sorted else sorted

/-- The first line that is out of order, with its number. -/
def disorder? (order : SortOrder) : Nat -> List Octets -> Option (Nat × Octets)
  | number, a :: b :: rest =>
      let found := order.compareLines a b
      if found == .gt || (order.letters.contains 'u' && order.areAlike a b) then
        some (number + 1, b)
      else disorder? order (number + 1) (b :: rest)
  | _, _ => none

/-- The order that options ask for, or what is wrong with them. -/
def ofOptions (given : List Given) : Except Octets SortOrder := do
  let keys ← (given.filter fun option => option.letter == 'k').mapM fun option =>
    SortKey.read (option.argument.getD "")
  let letters := given.map (·.letter)
  let separator ←
    match argumentOf? given 't' with
    | none => pure none
    | some text =>
        match text.toList with
        | [] => throw "empty tab"
        | [c] => pure (some c)
        | ['\\', '0'] => pure (some '\x00')
        | _ => throw s!"multi-character tab {Quoted.plain text}"
  let exclusive := ['g', 'h', 'M', 'n', 'V'].filter letters.contains
  if 1 < exclusive.length then
    throw s!"options '-{String.ofList exclusive}' are incompatible"
  pure { keys, letters, separator }

end SortOrder

/-- The lines of some texts, which a character ends. -/
def linesEndedBy (lineEnd : String) (texts : List Octets) : List Octets :=
  texts.flatMap fun text =>
    let parts := text.splitOn lineEnd
    if parts.getLast? == some "" then parts.dropLast else parts

/-- Read files whose lines are to be sorted; the first that cannot be read is complained about. -/
def readSortable (name : Octets) : List Octets -> Act (Option (List Octets))
  | [] => pure (some [])
  | operand :: rest => do
      match ← openInput operand with
      | .error fault => do
          warn name s!"cannot read: {Quoted.wordIfNeeded operand}: {fault.text}"
          pure none
      | .ok descriptor => do
          let found ← readAll descriptor
          closeInput descriptor
          match found with
          | .error fault => do
              warn name s!"read failed: {Quoted.wordIfNeeded operand}: {fault.text}"
              pure none
          | .ok bytes => do
              let others ← readSortable name rest
              pure (others.map (Octets.ofBytes bytes :: ·))

/-- Write a text to a file, or to the output if there is none. -/
def writeTo
    (name : Octets)
    (path : Option Octets)
    (text : Octets)
    (failure : Nat) : Act Nat := do
  match path with
  | none => if ← emit name (Octets.toBytes text) then pure 0 else pure failure
  | some path =>
      match ← Act.call (.open path .writing) with
      | .error fault => do
          warn name s!"open failed: {Quoted.wordIfNeeded path}: {fault.text}"
          pure failure
      | .ok descriptor => do
          let written ← Act.call (.write descriptor (Octets.toBytes text))
          pure (if written.isOk then 0 else failure)

/-- Sort the lines of files. -/
def sort : Program :=
  withOptions
    { letters :=
        [('k', .something), ('t', .something), ('o', .something), ('S', .something),
          ('T', .something)] ++
          ['b', 'c', 'C', 'd', 'f', 'g', 'h', 'i', 'm', 'M', 'n', 'R', 'r', 's', 'u', 'V', 'z'].map
            fun letter => (letter, .nothing)
      words :=
        [("ignore-leading-blanks", 'b', .nothing), ("check", 'c', .perhaps),
          ("dictionary-order", 'd', .nothing), ("ignore-case", 'f', .nothing),
          ("general-numeric-sort", 'g', .nothing), ("human-numeric-sort", 'h', .nothing),
          ("ignore-nonprinting", 'i', .nothing), ("key", 'k', .something),
          ("merge", 'm', .nothing), ("month-sort", 'M', .nothing),
          ("numeric-sort", 'n', .nothing), ("output", 'o', .something),
          ("reverse", 'r', .nothing), ("stable", 's', .nothing),
          ("field-separator", 't', .something), ("unique", 'u', .nothing),
          ("version-sort", 'V', .nothing), ("zero-terminated", 'z', .nothing)] } 2
    fun launch given operands => do
      match SortOrder.ofOptions given with
      | .error reason => fail launch.name reason 2
      | .ok order => do
          let lineEnd := itemEnd given
          let inputs := orInput operands
          match ← readSortable launch.name inputs with
          | none => pure 2
          | some texts => do
              let lines := linesEndedBy lineEnd texts
              if isGiven given 'c' || isGiven given 'C' then
                match order.disorder? 1 lines with
                | none => pure 0
                | some (number, line) => do
                    if isGiven given 'c' then
                      let title := inputs.headD "-"
                      warn launch.name s!"{title}:{number}: disorder: {line}"
                    pure 1
              else
                let text := (order.sorted lines).map (· ++ lineEnd)
                writeTo launch.name (argumentOf? given 'o') (String.join text) 2

end Programs
end CameraFleet
