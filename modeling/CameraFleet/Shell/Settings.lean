import CameraFleet.Shell.Lookup
import CameraFleet.Shell.Options

/-!
# Settings and limits

The commands of the shell that show and change its parameters, arguments and
options, and the one that shows and changes how much it may use. Amounts are given
in units that depend on the resource.
-/

namespace CameraFleet
namespace Shell

/-- The options, each with its name and its letter; two names stand for nothing. -/
def optionNames : List (Octets × Char) :=
  [("errexit", 'e'), ("noglob", 'f'), ("ignoreeof", 'I'), ("interactive", 'i'), ("monitor", 'm'),
    ("noexec", 'n'), ("stdin", 's'), ("xtrace", 'x'), ("verbose", 'v'), ("vi", 'V'),
    ("emacs", 'E'), ("noclobber", 'C'), ("allexport", 'a'), ("notify", 'b'), ("nounset", 'u'),
    ("privileged", 'p'), ("nolog", '1'), ("debug", '2')]

/-- Set an option, or unset it. -/
def setOption
    (letter : Char)
    (value : Bool) : Sh Unit :=
  modify fun state =>
    let others := state.options.filter (· != letter)
    let others :=
      if value && letter == 'V' then others.filter (· != 'E')
      else if value && letter == 'E' then others.filter (· != 'V')
      else others
    { state with options := if value then letter :: others else others }

/-- Set the option of a letter, or unset it. -/
def setLetter
    (letter : Char)
    (value : Bool) : Sh Unit := do
  if letter.isAlpha && optionNames.any (·.2 == letter) then setOption letter value
  else Sh.fail s!"Illegal option -{letter}"

/-- Set the option of a name, or unset it. -/
def setNamed
    (name : Octets)
    (value : Bool) : Sh Unit := do
  match optionNames.lookup name with
  | some letter => setOption letter value
  | none => Sh.fail s!"Illegal option -o {name}"

/-- Show all options, as a table or as commands. -/
def showOptions (asTable : Bool) : Sh Unit := do
  let state ← get
  if asTable then Sh.print "Current option settings\n"
  for (name, letter) in optionNames do
    let isSet := state.has letter
    if asTable then
      let blanks := String.ofList (List.replicate (16 - name.length) ' ')
      Sh.print (name ++ blanks ++ (if isSet then "on" else "off") ++ "\n")
    else Sh.print ("set " ++ (if isSet then "-o " else "+o ") ++ name ++ "\n")

/-- Set or unset the options of a group of letters; the arguments that are left. -/
def setLetters
    (starts value : Bool) :
    List Char -> List Octets -> Bool -> Sh (List Octets × Bool)
  | [], args, script => pure (args, script)
  | letter :: rest, args, script => do
      if starts && letter == 'c' then setLetters starts value rest args true
      else if starts && letter == 'l' then setLetters starts value rest args script
      else if letter == 'o' then
        match args with
        | [] => showOptions value
        | name :: _ => setNamed name value
        setLetters starts value rest (args.drop 1) script
      else
        setLetter letter value
        setLetters starts value rest args script

/--
Set or unset the options at the start of some arguments, as a shell that starts
does or a command of it. The result is the arguments that are left, whether there
is a script among them, and whether an end of the options was given.
-/
def setGroups (starts : Bool) :
    Nat -> List Octets -> Bool -> Sh (List Octets × Bool × Bool)
  | 0, args, script => pure (args, script, false)
  | _ + 1, [], script => pure ([], script, false)
  | fuel + 1, arg :: args, script => do
      match arg.toList with
      | ['-'] => do
          if !starts then
            setOption 'x' false
            setOption 'v' false
          pure (args, script, false)
      | ['-', '-'] => pure (args, script, true)
      | '-' :: letters => do
          let (args, script) ← setLetters starts true letters args script
          setGroups starts fuel args script
      | '+' :: letters => do
          let (args, script) ← setLetters starts false letters args script
          setGroups starts fuel args script
      | _ => pure (arg :: args, script, false)

/-- Replace the arguments of the shell. -/
def setArgs (args : List Octets) : Sh Unit :=
  modify ({ · with args, optionNext := 1, optionPlace := none })

/-- Show parameters of some kind, in order. -/
def showParameters
    (start : Octets)
    (wanted : Binding -> Bool) : Sh Unit := do
  let found := (← get).bindings.filter fun entry => wanted entry.2
  for (name, binding) in found.mergeSort fun a b => decide (a.1 ≤ b.1) do
    let value := (binding.value.map fun value => s!"={quoteWord value}").getD ""
    Sh.print s!"{start}{name}{value}\n"

/-- Set options and arguments, or show the parameters. -/
def setCommand (args : List Octets) : Sh Nat := do
  if args.isEmpty then showParameters "" (·.value.isSome)
  else
    let (left, _, ended) ← setGroups false (args.length + 1) args false
    if !left.isEmpty || ended then setArgs left
  pure 0

/-- Take away arguments of the shell from the front. -/
def shift (args : List Octets) : Sh Nat := do
  let count ←
    match args with
    | [] => pure 1
    | arg :: _ => Sh.numberOf arg
  let own := (← get).args
  if own.length < count then Sh.fail "can't shift that many"
  else
    setArgs (own.drop count)
    pure 0

/-- A name, and the value that an argument assigns to it, if it does. -/
def splitAssignment (arg : Octets) : Octets × Option Octets :=
  let chars := arg.toList
  let name := String.ofList (chars.takeWhile (· != '='))
  match chars.dropWhile (· != '=') with
  | _ :: value => (name, some (String.ofList value))
  | [] => (name, none)

/-- Mark parameters, which may be given values. -/
def markEach (mark : Binding -> Binding) : List Octets -> Sh Unit
  | [] => pure ()
  | arg :: rest => do
      let (name, value) := splitAssignment arg
      Sh.checkName name
      match value with
      | some value => Sh.assign name value
      | none => pure ()
      modify fun state => state.bind name (mark (state.binding name))
      markEach mark rest

/-- Mark parameters, or show those that are marked. -/
def markCommand
    (command : Octets)
    (mark : Binding -> Binding)
    (isMarked : Binding -> Bool)
    (args : List Octets) : Sh Nat := do
  let (given, operands) ← readOptions [('p', false)] args
  if given.isEmpty && !operands.isEmpty then markEach mark operands
  else showParameters (command ++ " ") isMarked
  pure 0

/-- Let parameters belong to the function that is run. -/
def localEach : List Octets -> Sh Unit
  | [] => pure ()
  | "-" :: rest => do
      modify fun state =>
        match state.locals with
        | [] => state
        | innermost :: outer =>
            { state with locals := (.options state.options :: innermost) :: outer }
      localEach rest
  | arg :: rest => do
      let (name, value) := splitAssignment arg
      Sh.checkName name
      Sh.shelter name
      match value with
      | some value => Sh.assign name value
      | none => modify fun state => state.bind name (state.binding name)
      localEach rest

/-- Let parameters belong to the function that is run, if one is. -/
def localCommand (args : List Octets) : Sh Nat := do
  if (← get).depth = 0 then Sh.fail "not in a function"
  else
    localEach (← operandsOf args)
    pure 0

/-- Forget parameters or functions. -/
def unset (args : List Octets) : Sh Nat := do
  let (given, operands) ← readOptions [('f', false), ('v', false)] args
  let functions := (given.getLast?.map (·.1)) == some 'f'
  for name in operands do
    if functions then
      modify fun state => { state with functions := state.functions.filter (·.1 != name) }
    else
      Sh.checkName name
      Sh.unset name
  pure 0

/-! ## Limits -/

open Host

/-- The resources: their letters, names and units. -/
def resources : List (Char × Octets × Nat × Resource) :=
  [('t', "time(seconds)", 1, .time), ('f', "file(blocks)", 512, .fileSize),
    ('d', "data(kbytes)", 1024, .data), ('s', "stack(kbytes)", 1024, .stack),
    ('c', "coredump(blocks)", 512, .core), ('m', "memory(kbytes)", 1024, .resident),
    ('l', "locked memory(kbytes)", 1024, .pinned), ('p', "process", 1, .processes),
    ('n', "nofiles", 1, .openFiles), ('v', "vmemory(kbytes)", 1024, .memory),
    ('w', "locks", 1, .locks), ('r', "rtprio", 1, .urgency)]

/-- The text of an amount of a resource that has a unit. -/
def amountText (unit : Nat) : Option Nat -> Octets
  | none => "unlimited\n"
  | some amount => s!"{amount / unit}\n"

/-- The amount that a text gives, without end in one case; none if it is no amount. -/
def amount? (unit : Nat) (text : Octets) : Option (Option Nat) :=
  if text == "unlimited" then some none
  else if text.all Char.isDigit then some (some (text.toNat?.getD 0 * unit))
  else none

/-- Show or change limits. -/
def changeLimit (args : List Octets) : Sh Nat := do
  let known := "HSatfdscmlpnvwr".toList.map fun letter => (letter, false)
  let (given, operands) ← readOptions known args
  let letters := given.map (·.1)
  let how := (letters.filter ['H', 'S'].contains).getLast?
  let all := letters.contains 'a'
  let letter := ((letters.filter fun c => !(['H', 'S', 'a'].contains c)).getLast?).getD 'f'
  let shown (unit : Nat) (limit : Limit) : Octets :=
    amountText unit (if how == some 'H' then limit.hard else limit.soft)
  match operands, resources.lookup letter with
  | _, none => pure 0
  | [], some (_, unit, resource) => do
      if all then
        for (_, name, unit, resource) in resources do
          match ← Sh.call (.limit resource none) with
          | .ok limit =>
              let blanks := String.ofList (List.replicate (20 - name.length) ' ')
              Sh.print s!"{name}{blanks} {shown unit limit}"
          | .error _ => pure ()
      else
        match ← Sh.call (.limit resource none) with
        | .ok limit => Sh.print (shown unit limit)
        | .error _ => pure ()
      pure 0
  | text :: others, some (_, unit, resource) => do
      if all || !others.isEmpty then Sh.fail "too many arguments"
      else
        match amount? unit text, ← Sh.call (.limit resource none) with
        | some amount, .ok old => do
            let new : Limit :=
              { soft := if how == some 'H' then old.soft else amount
                hard := if how == some 'S' then old.hard else amount }
            match ← Sh.call (.limit resource (some new)) with
            | .ok _ => pure 0
            | .error fault => Sh.fail s!"error setting limit ({fault.text})"
        | _, _ => Sh.fail "bad number"

end Shell
end CameraFleet
