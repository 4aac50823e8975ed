import CameraFleet.Shell.Extended.Declarations
import CameraFleet.Shell.Extended.Trial
import CameraFleet.Shell.Settings

/-!
# Settings of the extended shell

The commands of the extended shell that show and change its options and its
arguments.
-/

namespace CameraFleet
namespace Shell
namespace Extended

/-- The further options, each with whether a shell starts with it. -/
def furtherOptions : List (Octets × Bool) :=
  let on := ["checkwinsize", "cmdhist", "complete_fullquote", "extquote", "force_fignore",
    "globasciiranges", "globskipdots", "hostcomplete", "interactive_comments",
    "patsub_replacement", "progcomp", "promptvars", "sourcepath"]
  let off := ["autocd", "assoc_expand_once", "cdable_vars", "cdspell", "checkhash", "checkjobs",
    "compat31", "compat32", "compat40", "compat41", "compat42", "compat43", "compat44",
    "direxpand", "dirspell", "dotglob", "execfail", "expand_aliases", "extdebug", "extglob",
    "failglob", "globstar", "gnu_errfmt", "histappend", "histreedit", "histverify",
    "huponexit", "inherit_errexit", "lastpipe", "lithist", "localvar_inherit",
    "localvar_unset", "login_shell", "mailwarn", "no_empty_cmd_completion", "nocaseglob",
    "nocasematch", "noexpand_translation", "nullglob", "progcomp_alias",
    "restricted_shell", "shift_verbose", "varredir_close", "xpg_echo"]
  (on.map (·, true) ++ off.map (·, false)).mergeSort fun a b => decide (a.1 ≤ b.1)

/-- The further options with which a shell starts. -/
def startingOptions : List Octets :=
  (furtherOptions.filter (·.2)).map (·.1) ++ ["interactive-comments"]

/-- Set a further option, or unset it. -/
def changeSetting (name : Octets) (value : Bool) : Sh Unit :=
  modify fun state =>
    let others := state.settings.filter (· != name)
    { state with settings := if value then name :: others else others }

/-- Whether a letter is that of an option. -/
def isOptionLetter (letter : Char) : Bool :=
  optionLetters.any (·.2 == letter)

/-- Set the option of a name, or unset it; whether there is one. -/
def changeNamed (name : Octets) (value : Bool) : Sh Bool := do
  match optionLetters.lookup name with
  | some letter => do
      setOption letter value
      pure true
  | none => do
      if wordOptions.contains name then changeSetting name value
      pure (wordOptions.contains name)

/-- A name with whether it is set, as tables have it. -/
def tableLine (name : Octets) (value : Bool) : Octets :=
  let blanks := String.ofList (List.replicate (15 - name.length) ' ')
  name ++ blanks ++ (if value then "\ton\n" else "\toff\n")

/-- Show all options, as a table or as commands. -/
def showAllOptions (asTable : Bool) : Sh Unit := do
  let state ← get
  for name in optionList do
    let value := hasOption state name
    if asTable then Sh.print (tableLine name value)
    else Sh.print s!"set {signOf value}o {name}\n"

/-- Set or unset the options of a group of letters; the arguments that are left. -/
def changeLetters (value : Bool) : List Char -> List Octets -> Sh (List Octets)
  | [], args => pure args
  | 'o' :: rest, args => do
      match args with
      | [] => do
          showAllOptions value
          changeLetters value rest []
      | name :: args => do
          if !(← changeNamed name value) then refuse 2 s!"{name}: invalid option name"
          changeLetters value rest args
  | letter :: rest, args => do
      if !isOptionLetter letter then
        misuse s!"{signOf value}{letter}: invalid option"
      setOption letter value
      changeLetters value rest args

/-- Set or unset the options at the start of some arguments; whether they end there. -/
def changeGroups : Nat -> List Octets -> Sh (List Octets × Bool)
  | 0, args => pure (args, false)
  | _ + 1, [] => pure ([], false)
  | fuel + 1, arg :: args => do
      match arg.toList with
      | ['-'] => do
          setOption 'x' false
          setOption 'v' false
          pure (args, !args.isEmpty)
      | ['-', '-'] => pure (args, true)
      | '-' :: letters => do changeGroups fuel (← changeLetters true letters args)
      | '+' :: letters => do changeGroups fuel (← changeLetters false letters args)
      | _ => pure (arg :: args, true)

/-- Set options and arguments, or show the parameters. -/
def setCommand (args : List Octets) : Sh Nat := do
  if args.isEmpty then declareCommand []
  else
    let (left, given) ← changeGroups (args.length + 1) args
    if given then setArgs left
    pure 0

/-- A further option as a command that sets it. -/
def settingCommand (name : Octets) (value : Bool) : Octets :=
  (if value then "shopt -s " else "shopt -u ") ++ name ++ "\n"

/-- Show or change further options. -/
def shoptCommand (args : List Octets) : Sh Nat := do
  let (given, names) ← options (flags "pqsuo") args
  let letters := given.map (·.1)
  let asOptions := letters.contains 'o'
  let state ← get
  let isOn (name : Octets) : Bool :=
    if asOptions then hasOption state name else state.settings.contains name
  let all := if asOptions then optionList else furtherOptions.map (·.1)
  let tell (name : Octets) : Sh Unit := do
    if letters.contains 'q' then pure ()
    else if letters.contains 'p' then Sh.print (settingCommand name (isOn name))
    else Sh.print (tableLine name (isOn name))
  let changes := letters.contains 's' || letters.contains 'u'
  let known (name : Octets) : Sh Bool := do
    if all.contains name then pure true
    else
      let kind := if asOptions then "option" else "shell option"
      Sh.warn s!"{name}: invalid {kind} name"
      pure false
  if names.isEmpty then
    for name in all do
      if !changes || isOn name == letters.contains 's' then tell name
    pure 0
  else
    let statuses ← names.mapM fun name => do
      if !(← known name) then pure 1
      else if changes then
        if asOptions then
          let _ ← changeNamed name (letters.contains 's')
        else changeSetting name (letters.contains 's')
        pure 0
      else
        tell name
        pure (if isOn name then 0 else 1)
    pure (statuses.foldl max 0)

/-- Take away arguments of the shell from the front. -/
def shiftCommand (args : List Octets) : Sh Nat := do
  let count? : Option Int :=
    match args with
    | [] => some 1
    | arg :: _ => decimal? arg
  let text := args.headD ""
  let own := (← get).args
  match count? with
  | none => refuse 1 s!"{text}: numeric argument required"
  | some (.ofNat count) =>
      if own.length < count then pure 1
      else
        modify ({ · with args := own.drop count })
        pure 0
  | some _ => complain s!"{text}: shift count out of range"

end Extended
end Shell
end CameraFleet
