import CameraFleet.Programs.Options
import CameraFleet.Programs.Escape
import CameraFleet.Text.CharClass

/-!
# Translation of bytes

Two sets of bytes are given, each as a list with an order. Bytes of the first
set are replaced by those of the second, deleted, or squeezed to one where they
are repeated.
-/

namespace CameraFleet
namespace Programs

open Host

namespace ByteSet

/-- A member of a set as it is written. -/
inductive Item
  /-- One byte. -/
  | one (byte : Nat)
  /-- The bytes between two. -/
  | range (first last : Nat)
  /-- The bytes of a class. -/
  | named (name : String)
  /-- The bytes that are equivalent to one. -/
  | like (byte : Nat)
  /-- A byte so many times; as often as needed if the number is zero. -/
  | repeated (byte count : Nat)
  deriving Repr, DecidableEq

/-- A byte of a written set, and whether a backslash stands before it. -/
abbrev Token := Nat × Bool

/-- The bytes of a written set, with backslashes taken away; the number bounds the steps. -/
def tokens : Nat -> List Char -> List Token
  | 0, _ => []
  | _ + 1, [] => []
  | fuel + 1, '\\' :: rest =>
      match rest with
      | [] => [('\\'.toNat, false)]
      | c :: after =>
          if '0' ≤ c && c ≤ '7' then
            let (found, after) := Escape.digits 8 3 rest
            let value := Numeral.valueOf 8 found
            if value < 256 then (value, true) :: tokens fuel after
            else
              let (found, after) := Escape.digits 8 2 rest
              (Numeral.valueOf 8 found, true) :: tokens fuel after
          else
            let value := if c == 'e' then 'e' else (Escape.letters.lookup c).getD c
            (value.toNat, true) :: tokens fuel after
  | fuel + 1, c :: rest => (c.toNat, false) :: tokens fuel rest

/-- Whether a token is this character, without a backslash. -/
def Token.means (token : Token) (c : Char) : Bool :=
  token.1 == c.toNat && !token.2

/-- The text of some tokens. -/
def textOf (tokens : List Token) : String :=
  String.ofList (tokens.map fun token => Char.ofNat token.1)

/-- The number of repetitions that a text stands for. -/
def repetitions? (text : String) : Option Nat :=
  if text.isEmpty then some 0
  else
    let base := if text.startsWith "0" then 8 else 10
    match Numeral.digits base text.toList with
    | (found, []) => some (Numeral.valueOf base found)
    | _ => none

/-- A byte as it is shown in complaints. -/
def shownByte (byte : Nat) : Octets :=
  let c := Char.ofNat byte
  match (Escape.letters.filter fun entry => entry.1 != 'e').find? fun entry => entry.2 == c with
  | some (letter, _) => String.ofList ['\\', letter]
  | none => if Quoted.isPrintable c then String.singleton c else String.ofList ('\\' :: Quoted.octal c)

/--
What stands between brackets at the start of some tokens, and the tokens after
it; none if no brackets start here.
-/
def bracketed? (tokens : List Token) : Option (Except Octets Item × List Token) :=
  match tokens with
  | opening :: kind :: rest =>
      if !Token.means opening '[' then none
      else if Token.means kind ':' || Token.means kind '=' then
        let mark := Char.ofNat kind.1
        let isEnd (place : Nat) : Bool :=
          match rest.drop place with
          | a :: b :: _ => Token.means a mark && Token.means b ']'
          | _ => false
        match (List.range rest.length).find? isEnd with
        | none => none
        | some place =>
            let inside := rest.take place
            let after := rest.drop (place + 2)
            let name := textOf inside
            if mark == ':' then
              if CharClass.isName name then some (.ok (.named name), after)
              else if inside.isEmpty then
                some (.error "missing character class name '[::]'", after)
              else if (rest.head?.any fun token => Token.means token '*') then none
              else some (.error s!"invalid character class {Quoted.plain name}", after)
            else
              match inside with
              | [token] => some (.ok (.like token.1), after)
              | [] => some (.error "missing equivalence class character '[==]'", after)
              | _ =>
                  if (rest.head?.any fun token => Token.means token '*') then none
                  else
                    some (.error s!"{name}: equivalence class operand must be a single character",
                      after)
      else
        match rest with
        | star :: rest =>
            if !Token.means star '*' then none
            else
              let digits := rest.takeWhile fun token => !Token.means token ']'
              let after := rest.drop digits.length
              match after with
              | [] => none
              | _ :: after =>
                  match repetitions? (textOf digits) with
                  | some count => some (.ok (.repeated kind.1 count), after)
                  | none =>
                      some (.error
                        s!"invalid repeat count {Quoted.plain (textOf digits)} in [c*n] construct",
                        after)
        | [] => none
  | _ => none

/-- The members of a set that is written as some tokens; the number bounds the steps. -/
def items : Nat -> List Token -> Except Octets (List Item)
  | 0, _ => .ok []
  | _ + 1, [] => .ok []
  | fuel + 1, token :: rest =>
      match bracketed? (token :: rest) with
      | some (item, after) => do
          let item ← item
          pure (item :: (← items fuel after))
      | none =>
          match rest with
          | dash :: last :: after =>
              if Token.means dash '-' then
                if last.1 < token.1 then
                  let range := shownByte token.1 ++ "-" ++ shownByte last.1
                  .error s!"range-endpoints of '{range}' are in reverse collating sequence order"
                else do
                  pure (.range token.1 last.1 :: (← items fuel after))
              else do
                pure (.one token.1 :: (← items fuel rest))
          | _ => do
              pure (.one token.1 :: (← items fuel rest))

/-- The members of a written set, or what is wrong with it. -/
def read (text : Octets) : Except Octets (List Item) :=
  let found := tokens (text.length + 1) text.toList
  items (found.length + 1) found

/-- The bytes of a class, in order. -/
def classBytes (name : String) : List Nat :=
  (List.range 256).filter fun byte => CharClass.holds name (Char.ofNat byte)

/-- The bytes of a member; a repetition without a number takes the given number. -/
def Item.bytes (fill : Nat) : Item -> List Nat
  | .one byte | .like byte => [byte]
  | .range first last => (List.range (last + 1)).drop first
  | .named name => classBytes name
  | .repeated byte 0 => List.replicate fill byte
  | .repeated byte count => List.replicate count byte

/-- The bytes of some members. -/
def bytesOf (fill : Nat) (items : List Item) : List Nat :=
  items.flatMap (Item.bytes fill)

/-- The bytes that are not in a list, in order. -/
def complement (bytes : List Nat) : List Nat :=
  (List.range 256).filter fun byte => !bytes.contains byte

end ByteSet

/-- A way to treat bytes. -/
structure Translation where
  /-- The byte that takes the place of each byte. -/
  images : Array Nat
  /-- Whether each byte is left out. -/
  deleted : Array Bool
  /-- Whether each byte is squeezed. -/
  squeezed : Array Bool

namespace Translation

/-- Which bytes are in a list. -/
def membership (bytes : List Nat) : Array Bool :=
  bytes.foldl (fun array byte => array.setIfInBounds byte true) (Array.replicate 256 false)

/-- Treat a byte; the state is the last byte that was written. -/
def step
    (translation : Translation)
    (state : Option Nat × ByteArray)
    (byte : UInt8) : Option Nat × ByteArray :=
  let (last, done) := state
  if translation.deleted.getD byte.toNat false then state
  else
    let image := translation.images.getD byte.toNat 0
    if translation.squeezed.getD image false && last == some image then state
    else (some image, done.push (UInt8.ofNat image))

/-- The bytes that take the place of bytes, in pairs; the last one is used as often as needed. -/
def pairs (sources targets : List Nat) : List (Nat × Nat) :=
  match targets.getLast? with
  | none => []
  | some last =>
      sources.zip (targets ++ List.replicate (sources.length - targets.length) last)

/-- The pairs of letters for classes of letters at the same place of both sets. -/
def hasCasePairs (first second : List ByteSet.Item) : Bool :=
  let isCase (item : ByteSet.Item) : Bool := item == .named "upper" || item == .named "lower"
  first.any isCase && second.any isCase

/-- What is wrong with the two sets of a replacement, if anything is. -/
def replacementFault?
    (complements : Bool)
    (first second : List ByteSet.Item) : Option Octets :=
  let isRepeat (item : ByteSet.Item) : Bool :=
    match item with
    | .repeated .. => true
    | _ => false
  let isEndless (item : ByteSet.Item) : Bool :=
    match item with
    | .repeated _ 0 => true
    | _ => false
  let isClass (item : ByteSet.Item) : Bool :=
    match item with
    | .named _ => true
    | _ => false
  let isOtherClass (item : ByteSet.Item) : Bool :=
    isClass item && item != .named "upper" && item != .named "lower"
  let isLike (item : ByteSet.Item) : Bool :=
    match item with
    | .like _ => true
    | _ => false
  if first.any isRepeat then some "the [c*] repeat construct may not appear in string1"
  else if 1 < second.countP isEndless then
    some "only one [c*] repeat construct may appear in string2"
  else if second.any isLike then
    some "[=c=] expressions may not appear in string2 when translating"
  else if second.any isOtherClass then
    some ("when translating, the only character classes that may appear in\n" ++
      "string2 are 'upper' and 'lower'")
  else if second.any isClass && !first.any isClass && !complements then
    some "misaligned [:upper:] and/or [:lower:] construct"
  else none

end Translation

/-- The operands that are missing or too many, if any are. -/
def setFault?
    (deletes squeezes : Bool)
    (operands : List Octets) : Option Octets :=
  let least := if deletes == squeezes then 2 else 1
  let most := if deletes && !squeezes then 1 else 2
  match operands with
  | [] => some "missing operand"
  | [only] =>
      if least == 1 then none
      else
        let reason :=
          if squeezes then
            "Two strings must be given when both deleting and squeezing repeats."
          else "Two strings must be given when translating."
        some s!"missing operand after {Quoted.plain only}\n{reason}"
  | _ =>
      match operands.drop most with
      | [] => none
      | extra :: _ =>
          if most == 1 && operands.length == 2 then
            some (s!"extra operand {Quoted.plain extra}\n" ++
              "Only one string may be given when deleting without squeezing repeats.")
          else some s!"extra operand {Quoted.plain extra}"

/-- The translation that options and sets ask for, or what is wrong with them. -/
def translationOf
    (given : List Given)
    (sets : List Octets) : Except Octets Translation := do
  let deletes := isGiven given 'd'
  let squeezes := isGiven given 's'
  let complements := isGiven given 'c'
  let first ← ByteSet.read (sets.headD "")
  let second ←
    match sets with
    | [_, text] => (ByteSet.read text).map some
    | _ => pure none
  let sources := ByteSet.bytesOf 0 first
  let sources := if complements then ByteSet.complement sources else sources
  let identity := (List.range 256).toArray
  let nothing := Array.replicate 256 false
  match second with
  | none =>
      match Translation.replacementFault? complements first [] with
      | some reason => .error reason
      | none =>
          let members := Translation.membership sources
          if deletes then
            pure { images := identity, deleted := members, squeezed := nothing }
          else pure { images := identity, deleted := nothing, squeezed := members }
  | some second =>
      let plain := ByteSet.bytesOf 0 second
      if deletes then
        pure
          { images := identity, deleted := Translation.membership sources
            squeezed := Translation.membership plain }
      else
        match Translation.replacementFault? complements first second with
        | some reason => .error reason
        | none =>
            let targets := ByteSet.bytesOf (sources.length - plain.length) second
            if targets.isEmpty && !isGiven given 't' then
              .error "when not truncating set1, string2 must be non-empty"
            else
              let sources :=
                if isGiven given 't' then sources.take targets.length else sources
              let images := (Translation.pairs sources targets).foldl
                (fun images (source, target) => images.setIfInBounds source target) identity
              let squeezed :=
                if squeezes then Translation.membership targets else nothing
              pure { images, deleted := nothing, squeezed }

/-- Replace, delete or squeeze bytes of the input. -/
def tr : Program :=
  withOptions
    { letters :=
        ['c', 'C', 'd', 's', 't'].map fun letter => (letter, .nothing)
      words :=
        [("complement", 'c', .nothing), ("delete", 'd', .nothing),
          ("squeeze-repeats", 's', .nothing), ("truncate-set1", 't', .nothing)]
      permutes := false } 1 fun launch given operands => do
    let given := given.map fun option =>
      if option.letter == 'C' then { option with letter := 'c' } else option
    match setFault? (isGiven given 'd') (isGiven given 's') operands with
    | some reason => misuse launch.name reason 1
    | none => do
        if operands.any fun set => set.endsWith "\\" && !set.endsWith "\\\\" then
          warn launch.name "warning: an unescaped backslash at end of string is not portable"
        match translationOf given operands with
        | .error reason => fail launch.name reason 1
        | .ok translation => do
            let feeder : Feeder (Option Nat) :=
              { feed := fun last bytes => bytes.foldl translation.step (last, .empty) }
            match ← feeder.run launch.name 0 manyTurns none .empty with
            | .error none => pure 1
            | .error (some fault) => fail launch.name s!"read error: {fault.text}" 1
            | .ok (_, pending) => do
                if ← emit launch.name pending then pure 0 else pure 1

end Programs
end CameraFleet
