import CameraFleet.Text.Octets

/-!
# Rights

Who may do what with a file: three octal digits, for its owner, its group and
all others, each of which adds up the rights to read, to write and to run, and
before them a digit of special marks. A text describes changes of rights by
letters.
-/

namespace CameraFleet
namespace Host
namespace Rights

/-- The letters of some rights. -/
def letters (rights : Nat) : Octets :=
  let letter (bit : Nat) (c : Char) : List Char := if rights / bit % 2 = 1 then [c] else []
  String.ofList (letter 4 'r' ++ letter 2 'w' ++ letter 1 'x')

/-- The right to run as a letter, together with a mark that the same place shows. -/
def runLetter (runs marked : Bool) (mark : Char) : Char :=
  if marked then if runs then mark else mark.toUpper
  else if runs then 'x'
  else '-'

/-- All rights as nine letters. -/
def nineLetters (rights : Nat) : Octets :=
  let has (bit : Nat) : Bool := rights / bit % 2 == 1
  let letter (bit : Nat) (c : Char) : Char := if has bit then c else '-'
  String.ofList
    [letter 256 'r', letter 128 'w', runLetter (has 64) (has 2048) 's',
      letter 32 'r', letter 16 'w', runLetter (has 8) (has 1024) 's',
      letter 4 'r', letter 2 'w', runLetter (has 1) (has 512) 't']

/-- All rights and marks. -/
def all : Nat := 4095

/-- Some rights without others. -/
def without (rights others : Nat) : Nat :=
  rights - (rights &&& others)

/-- The rights and marks of the classes that a letter stands for. -/
def classOf? (c : Char) : Option Nat :=
  [('u', 2496), ('g', 1080), ('o', 519), ('a', 4095)].lookup c

/-- What rights a letter grants. -/
inductive Grant
  /-- These rights. -/
  | rights (rights : Nat)
  /-- The right to run, where it makes sense or somebody has it. -/
  | runnable
  /-- The rights that a class has: the place of its digit. -/
  | copied (place : Nat)
  deriving Repr, DecidableEq

/-- What rights a letter grants. -/
def grantOf? (c : Char) : Option Grant :=
  [('r', .rights 292), ('w', .rights 146), ('x', .rights 73), ('X', .runnable),
    ('s', .rights 3072), ('t', .rights 512), ('u', .copied 64), ('g', .copied 8),
    ('o', .copied 1)].lookup c

/-- A change of rights. -/
structure Change where
  /-- The rights and marks of the classes that are named; none if none is named. -/
  classes : Option Nat
  /-- A plus sign, a minus sign or an equals sign. -/
  operator : Char
  /-- What is granted. -/
  grants : List Grant
  deriving Repr, DecidableEq

/-- The rights that a grant means for a file. -/
def Grant.value (isDirectory : Bool) (rights : Nat) : Grant -> Nat
  | .rights granted => granted
  | .runnable => if isDirectory || rights &&& 73 != 0 then 73 else 0
  | .copied place => rights / place % 8 * 73

/-- The rights after a change; where no class is named, those in the mask are left alone. -/
def Change.apply
    (mask : Nat)
    (isDirectory : Bool)
    (rights : Nat)
    (change : Change) : Nat :=
  let granted := change.grants.foldl (fun sum grant => sum ||| grant.value isDirectory rights) 0
  let granted :=
    match change.classes with
    | some classes => granted &&& classes
    | none => without granted mask
  let kept :=
    match change.classes with
    | some classes => without (without all classes ||| (if isDirectory then 3072 else 0)) 0
    | none => if isDirectory then 3072 else 0
  if change.operator == '+' then rights ||| granted
  else if change.operator == '-' then without rights granted
  else rights &&& kept ||| granted

/-- Whether a character is an operator of a change. -/
def isOperator (c : Char) : Bool :=
  c == '+' || c == '-' || c == '='

/-- The changes of a clause from its first operator on; the number bounds the steps. -/
def readChanges (classes : Option Nat) : Nat -> List Char -> Option (List Change)
  | 0, _ => none
  | _ + 1, [] => some []
  | fuel + 1, operator :: rest =>
      if !isOperator operator then none
      else
        let letters := rest.takeWhile fun c => !isOperator c
        match letters.mapM grantOf? with
        | none => none
        | some grants =>
            (readChanges classes fuel (rest.drop letters.length)).map fun others =>
              { classes, operator, grants } :: others

/-- The changes that a clause describes. -/
def readClause (clause : Octets) : Option (List Change) :=
  let chars := clause.toList
  let named := chars.takeWhile fun c => (classOf? c).isSome
  let rest := chars.drop named.length
  let classes :=
    if named.isEmpty then none
    else some ((named.filterMap classOf?).foldl (fun sum rights => sum ||| rights) 0)
  if rest.isEmpty then none else readChanges classes (rest.length + 1) rest

/-- The changes that a text describes. -/
def readText (text : Octets) : Option (List Change) :=
  ((text.splitOn ",").mapM readClause).map List.flatten

/-- The rights after the changes that a text describes. -/
def described?
    (text : Octets)
    (mask : Nat)
    (isDirectory : Bool)
    (rights : Nat) : Option Nat :=
  (readText text).map fun changes => changes.foldl (Change.apply mask isDirectory) rights

/-- The number of some octal digits. -/
def octal? (text : Octets) : Option Nat :=
  if !text.isEmpty && text.all fun c => '0' ≤ c && c ≤ '7' then
    some (text.toList.foldl (fun total c => 8 * total + (c.toNat - '0'.toNat)) 0)
  else none

/-- The rights that a text gives, as a number or by changes. -/
def given?
    (text : Octets)
    (mask : Nat)
    (isDirectory : Bool)
    (rights : Nat) : Option Nat :=
  if text.toList.head?.any Char.isDigit then
    ((octal? text).filter (· ≤ all)).map fun number =>
      if isDirectory && text.length < 5 then number ||| (rights &&& 3072) else number
  else described? text mask isDirectory rights

/-- A number as four octal digits. -/
def fourDigits (number : Nat) : Octets :=
  let digits := String.ofList (Nat.toDigits 8 number)
  String.ofList (List.replicate (4 - digits.length) '0') ++ digits

end Rights
end Host
end CameraFleet
