import CameraFleet.Shell.Extended.Usage
import CameraFleet.Shell.Extended.Variables

/-!
# Declarations

The commands of the extended shell that declare parameters, give them values
and members, and forget them.
-/

namespace CameraFleet
namespace Shell
namespace Extended

/-- What an assignment gives. -/
inductive Given
  /-- A value. -/
  | one (value : Octets)
  /-- The members of a list. -/
  | list (entries : List Sh.Entry)

/-- An operand of a command that declares parameters. -/
inductive Operand
  /-- A text. -/
  | text (text : Octets)
  /-- An assignment. -/
  | assignment (name : Octets) (key : Option Octets) (appends : Bool) (given : Given)

namespace Operand

/-- The key in brackets at the end of a name, if there is one. -/
def splitKey (text : List Char) : List Char × Option Octets :=
  match text.dropWhile (· != '[') with
  | '[' :: rest =>
      if rest.getLast? == some ']' then
        (text.takeWhile (· != '['), some (String.ofList rest.dropLast))
      else (text, none)
  | _ => (text, none)

/-- A text as an operand, which may assign something. -/
def ofText (text : Octets) : Operand :=
  let chars := text.toList
  let target := chars.takeWhile (· != '=')
  match chars.dropWhile (· != '=') with
  | _ :: value =>
      let appends := target.getLast? == some '+'
      let (name, key) := splitKey (if appends then target.dropLast else target)
      .assignment (String.ofList name) key appends (.one (String.ofList value))
  | [] => .text text

/-- The text of an operand, as complaints show it. -/
def shown : Operand -> Octets
  | .text operand => operand
  | .assignment name key appends given =>
      let sign := if appends then "+=" else "="
      let place := name ++ (key.map fun key => s!"[{key}]").getD ""
      match given with
      | .one value => place ++ sign ++ value
      | .list _ => place ++ sign ++ "(...)"

end Operand

/-- Give what an assignment gives. -/
def assignGiven
    (name : Octets)
    (key : Option Octets)
    (appends : Bool)
    (given : Given) : Sh Unit := do
  match given with
  | .list entries => Sh.storeList name appends entries
  | .one value => do
      let key ←
        match key with
        | some text => some <$> Sh.keyFor name text
        | none => pure none
      Sh.store name key appends value

/-! ## Marks -/

/-- What is known of a parameter after a letter has been given with a sign. -/
def marked
    (letter : Char)
    (on : Bool)
    (binding : Binding) : Binding :=
  let old : List (Octets × Octets) := (binding.value.map fun value => ("0", value)).toList
  let isBare := old.isEmpty
  match letter, on with
  | 'i', _ => { binding with isNumber := on }
  | 'r', true => { binding with fixed := true }
  | 'x', _ => { binding with exported := on }
  | 'n', _ => { binding with refers := on }
  | 'u', _ => { binding with casing := if on then some .upper else none }
  | 'l', _ => { binding with casing := if on then some .lower else none }
  | 'a', true =>
      if binding.members.isSingle then
        { binding with members := .numbered (old.map fun (_, value) => (0, value)), isBare }
      else binding
  | 'A', true =>
      if binding.members.isSingle then { binding with members := .keyed old, isBare } else binding
  | _, _ => binding

/-- The letters at the start of some operands, each with its sign, and the operands after them. -/
def declarationFlags (known : List Char) :
    List Operand -> Sh (List (Char × Bool) × List Operand)
  | .text text :: rest => do
      match text.toList with
      | ['-', '-'] => pure ([], rest)
      | sign :: letter :: letters => do
          if sign != '-' && sign != '+' then pure ([], .text text :: rest)
          else
            match (letter :: letters).find? fun letter => !known.contains letter with
            | some wrong => misuse s!"{sign}{wrong}: invalid option"
            | none => do
                let (others, operands) ← declarationFlags known rest
                pure ((letter :: letters).map (fun letter => (letter, sign == '-')) ++ others,
                  operands)
      | _ => pure ([], .text text :: rest)
  | operands => pure ([], operands)

/-- The parameters that have a name and something else, in order. -/
def sortedBindings (wanted : Binding -> Bool) : Sh (List (Octets × Binding)) := do
  let found := (← get).bindings.filter fun entry => wanted entry.2
  pure (found.mergeSort fun a b => decide (a.1 ≤ b.1))

/-- What is known of a parameter, which may tell about the shell. -/
def toldBinding
    (name : Octets)
    (binding : Binding) : Sh Binding := do
  pure { binding with value := binding.value.or ((← get).toldValue? name) }

/-- Show the parameters that have some marks. -/
def showDeclarations (letters : List Char) : Sh Nat := do
  let found ← sortedBindings fun binding =>
    letters.all fun letter => (flagLetters binding).toList.contains letter
  for (name, binding) in found do
    Sh.print s!"{declarationText name (← toldBinding name binding)}\n"
  pure 0

/-- Show some parameters. -/
def showNamed (names : List Octets) : Sh Nat := do
  let statuses ← names.mapM fun name => do
    match (← get).bindings.lookup name with
    | some binding => do
        Sh.print s!"{declarationText name (← toldBinding name binding)}\n"
        pure 0
    | none => complain s!"{name}: not found"
  pure (statuses.foldl max 0)

/-- Let a parameter belong to the function that is run; it starts without a value. -/
def makeLocal (name : Octets) : Sh Unit := do
  let isKnown :=
    match (← get).locals with
    | innermost :: _ => innermost.any fun kept =>
        match kept with
        | .binding other _ => other == name
        | .options _ => false
    | [] => true
  if !isKnown then
    Sh.shelter name
    modify (·.bind name {})

/-- Declare what an operand names, which may be local; the status. -/
def declareOne
    (isLocal : Bool)
    (letters : List (Char × Bool))
    (operand : Operand) : Sh Nat := do
  let (name, key, assigned) :=
    match operand with
    | .text text =>
        let (name, key) := Operand.splitKey text.toList
        (String.ofList name, key, none)
    | .assignment name key appends given => (name, key, some (appends, given))
  if !(← isNamed operand.shown name) then pure 1
  else
    let old := (← get).binding name
    if old.fixed && (assigned.isSome || letters.contains ('r', false)) && !isLocal then
      complain s!"{name}: readonly variable"
    else if old.fixed && isLocal then complain s!"{name}: readonly variable"
    else
      if isLocal then makeLocal name
      let before := letters.filter (·.1 != 'r')
      let isReference := letters.contains ('n', true)
      modify fun state =>
        state.bind name (before.foldl (fun binding (letter, on) => marked letter on binding)
          (state.binding name))
      match assigned, isReference with
      | some (_, .one value), true =>
          modify fun state => state.bind name { state.binding name with value := some value }
      | some (appends, given), _ =>
          assignGiven name (if letters.any (·.1 == 'A') then key else key) appends given
      | none, _ => pure ()
      if letters.contains ('r', true) then
        modify fun state => state.bind name (marked 'r' true (state.binding name))
      pure 0

/-- Declare what some operands name; the status. -/
def declareEach
    (isLocal : Bool)
    (letters : List (Char × Bool))
    (operands : List Operand) : Sh Nat := do
  let statuses ← operands.mapM (declareOne isLocal letters)
  pure (statuses.foldl max 0)

/-- Whether a function is known by a name; complain if not. -/
def knowsFunction (name : Octets) : Sh Bool := do
  pure ((← get).functions.lookup name).isSome

/-- Declare parameters, or show them. -/
def declareCommand (operands : List Operand) : Sh Nat := do
  let (letters, rest) ← declarationFlags "aAfFgiIlnrtuxp".toList (operands)
  let has (letter : Char) : Bool := letters.contains (letter, true)
  let marks := letters.filter fun entry => !(['f', 'F', 'g', 'I', 'p', 't'].contains entry.1)
  let names := rest.map Operand.shown
  if has 'f' || has 'F' then
    if names.isEmpty then
      for (name, _) in (← get).functions.mergeSort fun a b => decide (a.1 ≤ b.1) do
        Sh.print s!"declare -f {name}\n"
      pure 0
    else
      let statuses ← names.mapM fun name => do
        if ← knowsFunction name then
          Sh.print s!"{name}\n"
          pure 0
        else pure 1
      pure (statuses.foldl max 0)
  else if has 'p' then
    if rest.isEmpty then showDeclarations ((marks.filter (·.2)).map (·.1)) else showNamed names
  else if rest.isEmpty then
    if marks.isEmpty then do
      for (name, binding) in ← sortedBindings fun binding => binding.value.isSome do
        let value :=
          if binding.members.isSingle then Quoting.whereNeeded (binding.value.getD "")
          else membersText binding.members
        Sh.print s!"{name}={value}\n"
      pure 0
    else showDeclarations ((marks.filter (·.2)).map (·.1))
  else declareEach (0 < (← get).depth && !has 'g') marks rest

/-- Declare parameters that belong to the function that is run. -/
def localCommand (operands : List Operand) : Sh Nat := do
  if (← get).depth = 0 then complain "can only be used in a function"
  else
    match operands with
    | [.text "-"] => do
        modify fun state =>
          match state.locals with
          | [] => state
          | innermost :: outer =>
              { state with locals := (.options state.options :: innermost) :: outer }
        pure 0
    | _ => do
        let (letters, rest) ← declarationFlags "aAfFgiIlnrtuxp".toList operands
        let marks := letters.filter fun entry => !(['f', 'F', 'g', 'I', 'p', 't'].contains entry.1)
        if rest.isEmpty then
          let names : List Octets := ((← get).locals.headD []).filterMap fun kept =>
            match kept with
            | .binding name _ => some name
            | .options _ => none
          for name in names.mergeSort fun a b => decide (a ≤ b) do
            Sh.print s!"{declarationText name ((← get).binding name)}\n"
          pure 0
        else declareEach true marks rest

/-- Give and mark what an operand of a marking command names; the status. -/
def markOne
    (letters : List (Char × Bool))
    (operand : Operand) : Sh Nat := do
  let (name, assigned) :=
    match operand with
    | .text text => (text, none)
    | .assignment name key appends given => (name, some (key, appends, given))
  let hasKey := (assigned.map fun (key, _, _) => key.isSome).getD false
  if hasKey || !isName name then
    Sh.warn s!"\x60{operand.shown}': not a valid identifier"
    pure 1
  else
    let before := letters.filter (·.1 != 'r')
    let mark (letters : List (Char × Bool)) : Sh Unit :=
      modify fun state =>
        state.bind name (letters.foldl (fun binding (letter, on) => marked letter on binding)
          (state.binding name))
    match assigned with
    | some (_, appends, given) => do
        if !((← get).binding name).fixed then mark before
        assignGiven name none appends given
    | none => mark before
    mark (letters.filter (·.1 == 'r'))
    pure 0

/-- Let programs know parameters. -/
def exportCommand (operands : List Operand) : Sh Nat := do
  let (letters, rest) ← declarationFlags "fnp".toList operands
  let has (letter : Char) : Bool := letters.contains (letter, true)
  if rest.isEmpty then showDeclarations ['x']
  else if has 'f' then
    let statuses ← rest.mapM fun operand => do
      if ← knowsFunction operand.shown then pure 0
      else complain s!"{operand.shown}: not a function"
    pure (statuses.foldl max 0)
  else
    let statuses ← rest.mapM (markOne [('x', !has 'n')])
    pure (statuses.foldl max 0)

/-- Let parameters keep their values. -/
def readonlyCommand (operands : List Operand) : Sh Nat := do
  let (letters, rest) ← declarationFlags "aAfp".toList operands
  if rest.isEmpty then showDeclarations ['r']
  else
    let kinds := letters.filter fun entry => entry.1 == 'a' || entry.1 == 'A'
    let statuses ← rest.mapM (markOne (('r', true) :: kinds))
    pure (statuses.foldl max 0)

/-- Forget a parameter, or a function if there is no such parameter; the status. -/
def unsetOne
    (letters : List Char)
    (text : Octets) : Sh Nat := do
  let (name, key) := Operand.splitKey text.toList
  let name := String.ofList name
  let state ← get
  let binding := state.bindings.lookup (if letters.contains 'n' then name else state.meant name)
  if letters.contains 'f' || (binding.isNone && !letters.contains 'v') then
    modify fun state => { state with functions := state.functions.filter (·.1 != name) }
    pure 0
  else if !isName name then
    Sh.warn s!"\x60{text}': not a valid identifier"
    pure 1
  else if (binding.getD {}).fixed then complain s!"{name}: cannot unset: readonly variable"
  else
    match key with
    | some key =>
        if key == "@" || key == "*" then Sh.unset name
        else Sh.unsetMember name (← Sh.keyFor name key)
        pure 0
    | none => do
        let meant := if letters.contains 'n' then name else state.meant name
        modify fun state =>
          { state with bindings := state.bindings.filter (·.1 != meant) }
        pure 0

/-- Forget parameters or functions. -/
def unsetCommand (args : List Octets) : Sh Nat := do
  let (given, names) ← options (flags "fvn") args
  let statuses ← names.mapM (unsetOne (given.map (·.1)))
  pure (statuses.foldl max 0)

/-- Evaluate expressions; the status tells whether the last one is zero. -/
def letCommand (args : List Octets) : Sh Nat := do
  if args.isEmpty then refuse 1 "expression expected"
  else
    let values ← args.mapM fun text => do
      match ← Sh.tryCalculate text with
      | .ok value => pure value
      | .error problem => refuse 1 problem
    pure (if values.getLast? == some 0 then 1 else 0)

end Extended
end Shell
end CameraFleet
