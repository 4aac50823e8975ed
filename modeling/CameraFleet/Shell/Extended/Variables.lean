import CameraFleet.Shell.Extended.Calculation
import CameraFleet.Shell.Extended.Quoting
import CameraFleet.Shell.Extended.Substitution
import CameraFleet.Shell.State

/-!
# Parameters of the extended language

Parameters may have members, they may be numbers, their letters may be changed,
and they may stand for other parameters. Some tell about the shell itself,
and so do its options, which have names, and most of them letters too.
-/

namespace CameraFleet
namespace Shell

open Programs

/-! ## Names of options -/

namespace Extended

/-- The names of options, with their letters. -/
def optionLetters : List (Octets × Char) :=
  [("allexport", 'a'), ("braceexpand", 'B'), ("errexit", 'e'), ("errtrace", 'E'),
    ("functrace", 'T'), ("hashall", 'h'), ("histexpand", 'H'), ("keyword", 'k'),
    ("monitor", 'm'), ("noclobber", 'C'), ("noexec", 'n'), ("noglob", 'f'), ("notify", 'b'),
    ("nounset", 'u'), ("onecmd", 't'), ("physical", 'P'), ("privileged", 'p'),
    ("verbose", 'v'), ("xtrace", 'x')]

/-- Whether an option of a name is set. -/
def hasOption (state : State) (name : Octets) : Bool :=
  match optionLetters.lookup name with
  | some letter => state.has letter
  | none => state.settings.contains name

/-- The names of options that have no letter. -/
def wordOptions : List Octets :=
  ["emacs", "history", "ignoreeof", "interactive-comments", "nolog", "pipefail", "posix", "vi"]

/-- The names of all options, in order. -/
def optionList : List Octets :=
  (optionLetters.map (·.1) ++ wordOptions).mergeSort fun a b => decide (a ≤ b)

/-- The names of the options that are set. -/
def setOptions (state : State) : List Octets :=
  optionList.filter (hasOption state)

end Extended

/-! ## Values -/

namespace State

/-- A number that looks as if it came by chance. -/
def drawn (state : State) : Nat :=
  let seed := state.process * 7919 + state.draws * 104729 + 12345
  (seed * 1103515245 + 12345) / 65536 % 32768

/-- The members of a parameter that tells about the shell. -/
def told? (state : State) (name : Octets) : Option Members :=
  let list (values : List Octets) : Option Members :=
    some (.numbered (values.zipIdx.map fun (value, place) => (place, value)))
  match name with
  | "PIPESTATUS" => list (state.stages.map toString)
  | "FUNCNAME" =>
      if state.running.isEmpty then none else list (state.running.map (·.name))
  | "BASH_LINENO" => list (state.running.map fun running => toString running.line)
  | "BASH_SOURCE" =>
      let sources := state.source :: state.running.map (·.source)
      list ((sources.take state.running.length).map (·.getD ""))
  | "DIRSTACK" => list (state.here :: state.places)
  | _ => none

/-- The value of a parameter that tells about the shell. -/
def toldValue? (state : State) (name : Octets) : Option Octets :=
  match name with
  | "LINENO" => some (toString state.line)
  | "RANDOM" => some (toString state.drawn)
  | "BASH_SUBSHELL" => some (toString state.level)
  | "BASHPID" => some (toString state.process)
  | "SECONDS" => some "0"
  | "SHELLOPTS" => some (String.intercalate ":" (Extended.setOptions state))
  | "BASHOPTS" =>
      let further := state.settings.filter (!Extended.wordOptions.contains ·)
      some (String.intercalate ":" (further.mergeSort fun a b => decide (a ≤ b)))
  | _ => none

/-- The parameter that a name means, which may stand for another one. -/
def meant (state : State) (name : Octets) : Octets :=
  let step (name : Octets) : Octets :=
    let binding := state.binding name
    if binding.refers then binding.value.getD name else name
  (List.range 8).foldl (fun name _ => step name) name

/-- The members of a parameter. -/
def membersOf (state : State) (name : Octets) : Members :=
  match state.told? name with
  | some members => members
  | none => (state.binding (state.meant name)).members

/-- The value of a parameter as such. -/
def wholeValue? (state : State) (name : Octets) : Option Octets :=
  match state.told? name with
  | some members => members.leading?
  | none => (state.toldValue? name).or (state.value? (state.meant name))

/-- All members of a parameter with their keys; a single value is a member too. -/
def entriesOf (state : State) (name : Octets) : List (Octets × Octets) :=
  match state.membersOf name with
  | .single => ((state.wholeValue? name).map fun value => ("0", value)).toList
  | members => members.entries

/-- The number that a key means, which may count from the end. -/
def numberOfKey (entries : List (Nat × Octets)) (key : Octets) : Option Nat :=
  match integer? key with
  | some (.ofNat number) => some number
  | some number =>
      let fromEnd := number + Members.next entries
      if fromEnd < 0 then none else some fromEnd.toNat
  | none => none

/-- The value of the member of a parameter that has a key. -/
def memberValue? (state : State) (name key : Octets) : Option Octets :=
  match state.membersOf name with
  | .single =>
      if key == "0" || key == "-1" then state.wholeValue? name else none
  | .numbered entries => (numberOfKey entries key).bind fun number => entries.lookup number
  | .keyed entries => entries.lookup key

/-- What calculations know of the parameters. -/
def access (state : State) : Calculation.Access where
  value := fun name key =>
    match key with
    | none => state.wholeValue? name
    | some key => state.memberValue? name key
  isKeyed := fun name => (state.membersOf name).isKeyed
  isStrict := state.has 'u'

end State

namespace Sh

/-- The text that a parameter gets, whose letters may be changed. -/
def recased (binding : Binding) (value : Octets) : Octets :=
  match binding.casing with
  | some casing => Substitution.recase casing (casing != .toggled) none value
  | none => value

/-- Replace what is known of a parameter that gets a value, and see what follows from it. -/
def rebind
    (name : Octets)
    (binding : Binding) : Sh Unit := do
  let state ← get
  set (state.bind name
    { binding with exported := binding.exported || state.has 'a', isBare := false })
  if name == "OPTIND" then
    let place := ((binding.value.bind natural?).getD 1)
    modify ({ · with optionNext := max place 1, optionPlace := none })
  if name == "PATH" then modify ({ · with found := [] })

/-- A binding whose members have one more, or one changed. -/
def withMember (binding : Binding) (key value : Octets) : Option Binding :=
  let numbered (entries : List (Nat × Octets)) : Option Binding :=
    (State.numberOfKey entries key).map fun number =>
      let members := Members.numbered (Members.insert number value entries)
      { binding with members, value := members.leading? }
  match binding.members with
  | .single => numbered ((binding.value.map fun value => (0, value)).toList)
  | .numbered entries => numbered entries
  | .keyed entries =>
      let members := Members.keyed (Members.replace key value entries)
      some { binding with members, value := members.leading? }

/-- The value of a member of a binding, by its key. -/
def oldMember (binding : Binding) (key : Octets) : Option Octets :=
  match binding.members with
  | .single => if key == "0" then binding.value else none
  | .numbered entries => (State.numberOfKey entries key).bind fun number => entries.lookup number
  | .keyed entries => entries.lookup key

/-- The key of the member that stands for a parameter as such, if it has members. -/
def leadingKey (binding : Binding) : Option Octets :=
  if binding.members.isSingle then none else some "0"

/-- Give a parameter, or the member of one that has a key, a value as it is. -/
def put
    (name : Octets)
    (key : Option Octets)
    (value : Octets) : Sh Unit := do
  let name := (← get).meant name
  let binding := (← get).binding name
  if binding.fixed then failFixed name
  match key.or (leadingKey binding) with
  | none => rebind name { binding with value := some value }
  | some key =>
      match withMember binding key value with
      | some binding => rebind name binding
      | none => discard s!"{name}[{key}]: bad array subscript"

mutual

/-- The value of an expression with its changes carried out, or what is wrong with it. -/
def calculate? (fuel : Nat) (text : Octets) : Sh (Except Octets Int) := do
  match fuel with
  | 0 => pure (.ok 0)
  | fuel + 1 =>
      match Calculation.evaluate (← get).access text with
      | .error problem => pure (.error problem.text)
      | .ok (value, changes) => do
          for (place, value) in changes do
            storeValue fuel place.name place.key false value
          pure (.ok value)

/-- Give a parameter, or the member of one that has a key, a value or add to its value. -/
def storeValue
    (fuel : Nat)
    (name : Octets)
    (key : Option Octets)
    (appends : Bool)
    (value : Octets) : Sh Unit := do
  match fuel with
  | 0 => pure ()
  | fuel + 1 =>
      let name := (← get).meant name
      let binding := (← get).binding name
      let old := (oldMember binding (key.getD "0")).getD ""
      if binding.isNumber then
        let old := if old.isEmpty then "0" else old
        let text := if appends then s!"({old})+({value})" else value
        match ← calculate? fuel text with
        | .ok number => put name key (toString number)
        | .error problem => discard problem
      else put name key (recased binding (if appends then old ++ value else value))

end

/-- How deep assignments may lie within each other. -/
def assignmentFuel : Nat := 1000

/-- The value of an expression with its changes carried out, or what is wrong with it. -/
def tryCalculate (text : Octets) : Sh (Except Octets Int) :=
  calculate? assignmentFuel text

/-- The value of an expression, which has to be right. -/
def calculate (text : Octets) : Sh Int := do
  match ← tryCalculate text with
  | .ok value => pure value
  | .error problem => discard problem

/-- The key that a text means for a parameter. -/
def keyFor
    (name text : Octets) : Sh Octets := do
  if ((← get).membersOf name).isKeyed then pure text
  else pure (toString (← calculate text))

/-- Give a parameter, or the member of one that has a key, a value or add to its value. -/
def store
    (name : Octets)
    (key : Option Octets)
    (appends : Bool)
    (value : Octets) : Sh Unit := do
  storeValue assignmentFuel name key appends value

/-- A member that a list gives: with a key or without, and added to what was there or not. -/
structure Entry where
  /-- The text of the key. -/
  key : Option Octets := none
  /-- Whether the value is added. -/
  appends : Bool := false
  /-- The value. -/
  value : Octets

/-- Give a parameter the members of a list, from a number on. -/
def storeEntries (name : Octets) : Nat -> List Entry -> Sh Unit
  | _, [] => pure ()
  | next, entry :: rest => do
      let key ←
        match entry.key with
        | some text => keyFor name text
        | none => pure (toString next)
      store name (some key) entry.appends entry.value
      let after :=
        match integer? key with
        | some (.ofNat number) => number + 1
        | _ => next + 1
      storeEntries name after rest

/-- Give a parameter with texts for keys the members of a list of keys and values. -/
def storePairs (name : Octets) : List Entry -> Sh Unit
  | [] => pure ()
  | [entry] => store name (some entry.value) false ""
  | first :: second :: rest => do
      store name (some first.value) false second.value
      storePairs name rest

/-- Give a parameter members, or add them to those it has. -/
def storeList
    (name : Octets)
    (appends : Bool)
    (entries : List Entry) : Sh Unit := do
  let name := (← get).meant name
  let binding := (← get).binding name
  if binding.fixed then failFixed name
  let old : List (Nat × Octets) :=
    match binding.members with
    | .numbered entries => entries
    | .single => (binding.value.map fun value => (0, value)).toList
    | .keyed _ => []
  match binding.members, appends with
  | .keyed _, true => pure ()
  | .keyed _, false => rebind name { binding with members := .keyed [], value := none }
  | _, true => rebind name { binding with members := .numbered old }
  | _, false => rebind name { binding with members := .numbered [], value := none }
  if binding.members.isKeyed then
    if entries.all (·.key.isNone) then storePairs name entries
    else
      for entry in entries do
        match entry.key with
        | some key => store name (some key) entry.appends entry.value
        | none => do
            let problem := "must use subscript when assigning associative array"
            warnBare s!"{name}: {entry.value}: {problem}"
  else storeEntries name (if appends then Members.next old else 0) entries

/-- Forget the member of a parameter that has a key. -/
def unsetMember
    (name key : Octets) : Sh Unit := do
  let name := (← get).meant name
  let binding := (← get).binding name
  let members : Members :=
    match binding.members with
    | .single => .single
    | .numbered entries =>
        match State.numberOfKey entries key with
        | some number => .numbered (entries.filter (·.1 != number))
        | none => .numbered entries
    | .keyed entries => .keyed (entries.filter (·.1 != key))
  modify (·.bind name { binding with members, value := members.leading? })

end Sh

/-! ## How parameters are shown -/

/-- The members of a parameter as a list that gives them. -/
def membersText (members : Members) : Octets :=
  let entry (key value : Octets) : Octets :=
    s!"[{Quoting.key key}]={Quoting.double value}"
  let texts := members.entries.map fun (key, value) => entry key value
  let inner := String.intercalate " " texts
  if members.isKeyed && !texts.isEmpty then s!"({inner} )" else s!"({inner})"

/-- The letters of what is known of a parameter besides its value. -/
def flagLetters (binding : Binding) : Octets :=
  let letters : List (Char × Bool) :=
    [('a', !binding.members.isSingle && !binding.members.isKeyed), ('A', binding.members.isKeyed),
      ('i', binding.isNumber), ('n', binding.refers), ('r', binding.fixed),
      ('x', binding.exported), ('l', binding.casing == some .lower),
      ('u', binding.casing == some .upper)]
  String.ofList ((letters.filter (·.2)).map (·.1))

/-- A parameter as a command that declares it. -/
def declarationText
    (name : Octets)
    (binding : Binding) : Octets :=
  let flags := flagLetters binding
  let flags := if flags.isEmpty then "-" else flags
  let start := s!"declare -{flags} {name}"
  match binding.members, binding.value with
  | .single, some value => s!"{start}={Quoting.double value}"
  | .single, none => start
  | members, _ =>
      if binding.isBare then start else s!"{start}={membersText members}"

end Shell
end CameraFleet
