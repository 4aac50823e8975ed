import CameraFleet.Programs.Basic

/-!
# Options

A program's arguments are options and operands. A group of letters after a
hyphen is an option for each letter; a word after two hyphens is a long option,
which stands for a letter and may be shortened as long as it is unambiguous. Two
hyphens alone end the options.
-/

namespace CameraFleet
namespace Programs

open Host

/-- Whether an option has an argument. -/
inductive Taking
  /-- It has none. -/
  | nothing
  /-- It has one. -/
  | something
  /-- It may have one. -/
  | perhaps
  deriving Repr, DecidableEq

/-- The options of a program. -/
structure OptionTable where
  /-- The letters. -/
  letters : List (Char × Taking) := []
  /-- The words, with the letters for which they stand. -/
  words : List (Octets × Char × Taking) := []
  /-- Whether options may follow operands. -/
  permutes : Bool := true

/-- An option, with its argument if it has one. -/
structure Given where
  /-- The letter. -/
  letter : Char
  /-- The argument. -/
  argument : Option Octets := none
  deriving Repr, DecidableEq

namespace OptionTable

/-- The options that a group of letters stands for, and the arguments after it. -/
def readLetters (table : OptionTable) :
    List Char -> List Octets -> Except Octets (List Given × List Octets)
  | [], args => .ok ([], args)
  | letter :: letters, args =>
      match table.letters.lookup letter with
      | none => .error s!"invalid option -- '{letter}'"
      | some .nothing => do
          let (others, args) ← readLetters table letters args
          pure ({ letter } :: others, args)
      | some .perhaps =>
          let argument := if letters.isEmpty then none else some (String.ofList letters)
          .ok ([{ letter, argument }], args)
      | some .something =>
          if !letters.isEmpty then
            .ok ([{ letter, argument := some (String.ofList letters) }], args)
          else
            match args with
            | argument :: args => .ok ([{ letter, argument := some argument }], args)
            | [] => .error s!"option requires an argument -- '{letter}'"

/-- The option that a word stands for, or what is wrong with the word. -/
def findWord
    (table : OptionTable)
    (word : Octets) : Except Octets (Octets × Char × Taking) :=
  match table.words.find? (·.1 == word) with
  | some found => .ok found
  | none =>
      match table.words.filter fun entry => entry.1.startsWith word with
      | [] => .error s!"unrecognized option '--{word}'"
      | found :: others =>
          if others.all fun other => other.2 == found.2 then .ok found
          else
            let names := (found :: others).map fun entry => s!" '--{entry.1}'"
            .error s!"option '--{word}' is ambiguous; possibilities:{String.join names}"

/-- The option that is written after two hyphens, and the arguments after it. -/
def readWord
    (table : OptionTable)
    (text : Octets)
    (args : List Octets) : Except Octets (Given × List Octets) := do
  let chars := text.toList
  let word := String.ofList (chars.takeWhile (· != '='))
  let argument? : Option Octets :=
    match chars.dropWhile (· != '=') with
    | _ :: rest => some (String.ofList rest)
    | [] => none
  let (name, letter, taking) ← table.findWord word
  match taking, argument?, args with
  | .nothing, some _, _ => .error s!"option '--{name}' doesn't allow an argument"
  | .something, none, [] => .error s!"option '--{name}' requires an argument"
  | .something, none, argument :: args => pure ({ letter, argument := some argument }, args)
  | _, argument, _ => pure ({ letter, argument }, args)

/-- The options and the operands among some arguments; the number bounds the steps. -/
def readArgs (table : OptionTable) :
    Nat -> List Octets -> Except Octets (List Given × List Octets)
  | 0, args => .ok ([], args)
  | _ + 1, [] => .ok ([], [])
  | fuel + 1, arg :: args =>
      match arg.toList with
      | ['-', '-'] => .ok ([], args)
      | '-' :: '-' :: word => do
          let (given, args) ← table.readWord (String.ofList word) args
          let (others, operands) ← readArgs table fuel args
          pure (given :: others, operands)
      | '-' :: first :: letters => do
          let (found, args) ← table.readLetters (first :: letters) args
          let (others, operands) ← readArgs table fuel args
          pure (found ++ others, operands)
      | _ =>
          if table.permutes then do
            let (others, operands) ← readArgs table fuel args
            pure (others, arg :: operands)
          else .ok ([], arg :: args)

/-- The options and the operands among some arguments, or what is wrong with them. -/
def read
    (table : OptionTable)
    (args : List Octets) : Except Octets (List Given × List Octets) :=
  table.readArgs (args.length + 1) args

end OptionTable

/-- Whether an option is given. -/
def isGiven (given : List Given) (letter : Char) : Bool :=
  given.any (·.letter == letter)

/-- The argument of the last option of a letter. -/
def argumentOf? (given : List Given) (letter : Char) : Option Octets :=
  (given.reverse.find? (·.letter == letter)).bind (·.argument)

/-- The letter of the last option among some letters. -/
def lastOf? (given : List Given) (letters : List Char) : Option Char :=
  (given.reverse.find? fun option => letters.contains option.letter).map (·.letter)

/-- Go on with the options and the operands of a program, unless there is something wrong. -/
def withOptions
    (table : OptionTable)
    (status : Nat)
    (body : Launch -> List Given -> List Octets -> Act Nat) : Program := fun launch => do
  match table.read launch.args with
  | .ok (given, operands) => body launch given operands
  | .error reason => misuse launch.name reason status

end Programs
end CameraFleet
