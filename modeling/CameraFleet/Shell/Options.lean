import CameraFleet.Shell.State

/-!
# Options of the shell's commands

The arguments of a command of the shell may start with options: groups of
letters after a hyphen. A letter may have an argument, which is the rest of its
group or else the next argument. Two hyphens end the options.
-/

namespace CameraFleet
namespace Shell

/-- The options that a group of letters stands for, and the arguments that are left. -/
def readLetters (known : List (Char × Bool)) :
    List Char -> List Octets -> Sh (List (Char × Octets) × List Octets)
  | [], args => pure ([], args)
  | letter :: rest, args => do
      match known.lookup letter, rest.isEmpty, args with
      | none, _, _ => Sh.fail s!"Illegal option -{letter}"
      | some false, _, _ => do
          let (others, args) ← readLetters known rest args
          pure ((letter, "") :: others, args)
      | some true, false, _ => pure ([(letter, String.ofList rest)], args)
      | some true, true, argument :: args => pure ([(letter, argument)], args)
      | some true, true, [] => Sh.fail s!"No arg for -{letter} option"

/-- The options at the start of some arguments; the first number bounds the steps. -/
def readGroups (known : List (Char × Bool)) :
    Nat -> List Octets -> Sh (List (Char × Octets) × List Octets)
  | 0, args => pure ([], args)
  | _ + 1, [] => pure ([], [])
  | fuel + 1, arg :: args => do
      match arg.toList with
      | ['-', '-'] => pure ([], args)
      | '-' :: letter :: rest => do
          let (first, args) ← readLetters known (letter :: rest) args
          let (others, args) ← readGroups known fuel args
          pure (first ++ others, args)
      | _ => pure ([], arg :: args)

/-- The options at the start of some arguments, and the arguments after them. -/
def readOptions
    (known : List (Char × Bool))
    (args : List Octets) : Sh (List (Char × Octets) × List Octets) :=
  readGroups known (args.length + 1) args

/-- The arguments of a command that knows no options. -/
def operandsOf (args : List Octets) : Sh (List Octets) := do
  pure (← readOptions [] args).2

end Shell
end CameraFleet
