/-!
# Commands

A worker answers some broadcasts by running a command. An argument may hold
placeholders, a name between braces, that each run fills in.
-/

namespace CameraFleet

/-- A command to run. -/
structure Command where
  /-- The program. -/
  program : String
  /-- Its arguments. -/
  args : List String := []
  /-- The directory to run it in, if not the worker's own. -/
  cwd : Option String := none
  deriving Repr, DecidableEq, Inhabited

namespace Command

/-- Characters of a placeholder's name. -/
def isNameChar (c : Char) : Bool :=
  c.isAlphanum || c == '_'

/-- What the placeholders of a run stand for. -/
abbrev Bindings := List (String × String)

/-- Names that are bound in every run: the operations that every set of bindings has. -/
def operationNames : List (String × String) :=
  [("constructor", "Object"), ("hasOwnProperty", "hasOwnProperty"),
    ("isPrototypeOf", "isPrototypeOf"), ("propertyIsEnumerable", "propertyIsEnumerable"),
    ("toLocaleString", "toLocaleString"), ("toString", "toString"), ("valueOf", "valueOf"),
    ("__defineGetter__", "__defineGetter__"), ("__defineSetter__", "__defineSetter__"),
    ("__lookupGetter__", "__lookupGetter__"), ("__lookupSetter__", "__lookupSetter__")]

/-- What a name that is bound in every run stands for: the description of its operation. -/
def standing? (name : String) : Option String :=
  if name = "__proto__" then some "[object Object]"
  else
    (operationNames.lookup name).map fun operation =>
      "function " ++ operation ++ "() \x7b [native code] \x7d"

/-- What a placeholder of a name stands for, if it stands for anything. -/
def meaning? (bindings : Bindings) (name : String) : Option String :=
  (bindings.lookup name).or (standing? name)

/--
The name between a placeholder's opening brace and its closing one, and the
text after that; the text given starts after the opening brace.
-/
def placeholder? (text : List Char) : Option (List Char × List Char) :=
  match text.takeWhile isNameChar, text.dropWhile isNameChar with
  | c :: name, '}' :: rest => some (c :: name, rest)
  | _, _ => none

theorem length_of_placeholder?
    {text name rest : List Char}
    (found : placeholder? text = some (name, rest)) :
    rest.length < text.length := by
  have split := congrArg List.length (List.takeWhile_append_dropWhile (p := isNameChar) (l := text))
  unfold placeholder? at found
  split at found
  · rename_i dropped
    simp only [Option.some.injEq, Prod.mk.injEq] at found
    obtain ⟨_, rfl⟩ := found
    simp only [List.length_append, dropped, List.length_cons] at split
    omega
  · simp at found

/--
A text with its placeholders filled in. A placeholder that stands for nothing
is kept as it is, and what is filled in is not looked at again.
-/
def fill (bindings : Bindings) : List Char -> List Char
  | [] => []
  | c :: rest =>
      if c == '{' then
        match found : placeholder? rest with
        | some (name, after) =>
            have : after.length < rest.length := length_of_placeholder? found
            match meaning? bindings (String.ofList name) with
            | some value => value.toList ++ fill bindings after
            | none => c :: name ++ '}' :: fill bindings after
        | none => c :: fill bindings rest
      else c :: fill bindings rest
  termination_by text => text.length

/-- The command of one run: every argument with its placeholders filled in. -/
def expand (command : Command) (bindings : Bindings) : Command :=
  { command with
    args := command.args.map fun arg => String.ofList (fill bindings arg.toList) }

end Command
end CameraFleet
