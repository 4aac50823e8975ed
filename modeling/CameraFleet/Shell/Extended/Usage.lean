import CameraFleet.Shell.State

/-!
# Use of the extended shell's commands

The commands of the extended shell have options in front of their operands. A
command that is misused tells how it is used; that does not end a script.
-/

namespace CameraFleet
namespace Shell
namespace Extended

/-- How commands are used. -/
def usages : List (Octets × Octets) :=
  [(".", "filename [arguments]"), ("alias", "[-p] [name[=value] ... ]"),
    ("bg", "[job_spec ...]"), ("builtin", "[shell-builtin [arg ...]]"),
    ("caller", "[expr]"), ("cd", "[-L|[-P [-e]] [-@]] [dir]"),
    ("command", "[-pVv] command [arg ...]"),
    ("declare", "[-aAfFgiIlnrtux] [name[=value] ...] or declare -p [-aAfFilnrtux] [name ...]"),
    ("dirs", "[-clpv] [+N] [-N]"), ("disown", "[-h] [-ar] [jobspec ... | pid ...]"),
    ("enable", "[-a] [-dnps] [-f filename] [name ...]"), ("eval", "[arg ...]"),
    ("exec", "[-cl] [-a name] [command [argument ...]] [redirection ...]"),
    ("export", "[-fn] [name[=value] ...] or export -p"), ("fg", "[job_spec]"),
    ("getopts", "optstring name [arg ...]"), ("hash", "[-lr] [-p pathname] [-dt] [name ...]"),
    ("jobs", "[-lnprs] [jobspec ...] or jobs -x command [args]"),
    ("kill", "[-s sigspec | -n signum | -sigspec] pid | jobspec ... or kill -l [sigspec]"),
    ("let", "arg [arg ...]"), ("local", "[option] name[=value] ..."),
    ("mapfile",
      "[-d delim] [-n count] [-O origin] [-s count] [-t] [-u fd] [-C callback] [-c quantum] [array]"),
    ("popd", "[-n] [+N | -N]"), ("printf", "[-v var] format [arguments]"),
    ("pushd", "[-n] [+N | -N | dir]"), ("pwd", "[-LP]"),
    ("read",
      "[-ers] [-a array] [-d delim] [-i text] [-n nchars] [-N nchars] [-p prompt] [-t timeout] " ++
        "[-u fd] [name ...]"),
    ("readarray",
      "[-d delim] [-n count] [-O origin] [-s count] [-t] [-u fd] [-C callback] [-c quantum] [array]"),
    ("readonly", "[-aAf] [name[=value] ...] or readonly -p"),
    ("set", "[-abefhkmnptuvxBCEHPT] [-o option-name] [--] [-] [arg ...]"),
    ("shopt", "[-pqsu] [-o] [optname ...]"), ("source", "filename [arguments]"),
    ("times", ""), ("trap", "[-lp] [[arg] signal_spec ...]"),
    ("type", "[-afptP] name [name ...]"),
    ("typeset", "[-aAfFgiIlnrtux] name[=value] ... or typeset -p [-aAfFilnrtux] [name ...]"),
    ("ulimit", "[-SHabcdefiklmnpqrstuvxPRT] [limit]"), ("umask", "[-p] [-S] [mode]"),
    ("unalias", "[-a] name [name ...]"), ("unset", "[-f] [-v] [-n] [name ...]"),
    ("wait", "[-fn] [-p var] [id ...]")]

/-- The sign that sets an option, or the one that unsets it. -/
def signOf (value : Bool) : Octets :=
  if value then "-" else "+"

/-- Break off a command of the shell with a complaint and a status. -/
def refuse
    (status : Nat)
    (text : Octets) : Sh α :=
  Sh.failWith status .mistake text

/-- Break off a command of the shell with a complaint that does not name it. -/
def refuseBare
    (status : Nat)
    (text : Octets) : Sh α := do
  Sh.warnBare text
  Sh.flush
  modify ({ · with status })
  Sh.jump .mistake

/-- Break off a command of the shell and tell how it is used. -/
def tellUsage : Sh α := do
  let name := (← get).command.getD ""
  let usage := (usages.lookup name).getD ""
  Sh.act (Host.Act.complain s!"{name}: usage: {name} {usage}\n")
  Sh.flush
  modify ({ · with status := 2 })
  Sh.jump .mistake

/-- Complain about the use of a command, and tell how it is used. -/
def misuse (text : Octets) : Sh α := do
  Sh.warn text
  tellUsage

/-- Complain, with the status of a command that has not done all it should. -/
def complain (text : Octets) : Sh Nat := do
  Sh.warn text
  pure 1

/-- The options that a group of letters stands for, and the arguments that are left. -/
def letterOptions (known : List (Char × Bool)) :
    List Char -> List Octets -> Sh (List (Char × Octets) × List Octets)
  | [], args => pure ([], args)
  | letter :: rest, args => do
      match known.lookup letter, rest.isEmpty, args with
      | none, _, _ => misuse s!"-{letter}: invalid option"
      | some false, _, _ => do
          let (others, args) ← letterOptions known rest args
          pure ((letter, "") :: others, args)
      | some true, false, _ => pure ([(letter, String.ofList rest)], args)
      | some true, true, argument :: args => pure ([(letter, argument)], args)
      | some true, true, [] => misuse s!"-{letter}: option requires an argument"

/-- The options at the start of some arguments; the first number bounds the steps. -/
def groupOptions (known : List (Char × Bool)) :
    Nat -> List Octets -> Sh (List (Char × Octets) × List Octets)
  | 0, args => pure ([], args)
  | _ + 1, [] => pure ([], [])
  | fuel + 1, arg :: args => do
      match arg.toList with
      | ['-', '-'] => pure ([], args)
      | '-' :: letter :: rest => do
          let (first, args) ← letterOptions known (letter :: rest) args
          let (others, args) ← groupOptions known fuel args
          pure (first ++ others, args)
      | _ => pure ([], arg :: args)

/-- The options at the start of some arguments, and the arguments after them. -/
def options
    (known : List (Char × Bool))
    (args : List Octets) : Sh (List (Char × Octets) × List Octets) :=
  groupOptions known (args.length + 1) args

/-- Letters as options without arguments. -/
def flags (letters : String) : List (Char × Bool) :=
  letters.toList.map fun letter => (letter, false)

/-- The arguments of a command that knows no options. -/
def operands (args : List Octets) : Sh (List Octets) := do
  pure (← options [] args).2

/-- Complain about a name that no parameter can have; whether it can be one. -/
def isNamed (text name : Octets) : Sh Bool := do
  if isName name then pure true
  else
    Sh.warn s!"\x60{text}': not a valid identifier"
    pure false

end Extended
end Shell
end CameraFleet
