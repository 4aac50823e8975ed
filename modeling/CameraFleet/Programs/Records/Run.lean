import CameraFleet.Number.Curves
import CameraFleet.Programs.DateText
import CameraFleet.Programs.Records.State

/-!
# Running scripts

Expressions have values and may change what the script knows; statements are
carried out one after another unless the usual order is left.
-/

namespace CameraFleet
namespace Programs
namespace Records
namespace Runner

open Host

/-! ## Places of values -/

/-- Something that has a value. -/
inductive Target
  /-- What a name stands for. -/
  | name (name : Octets)
  /-- An element of the array of a number. -/
  | element (array : Nat) (key : Key)
  /-- A field. -/
  | field (place : Nat)
  deriving Repr, DecidableEq

/-- The value of an element, which is made if need be. -/
def elementOf (array : Nat) (key : Key) : Runner Value := do
  let (value, after) := (← table array).find key (some .unset)
  setTable array after
  pure (value.getD .unset)

/-- The value at a place. -/
def load (setting : Setting) : Target -> Runner Value
  | .name name => valueOf setting name
  | .element array key => elementOf array key
  | .field place => field setting place

/-- Give a value to a place. -/
def store (setting : Setting) (target : Target) (value : Value) : Runner Unit := do
  match target with
  | .name name => setVariable setting name value
  | .element array key => do
      let old ← table array
      setTable array (old.set key value)
  | .field place => setField setting place value

/-- The number of a field. -/
def placeOf (setting : Setting) (value : Value) : Runner Nat := do
  let place := Value.wholeOf value.toNumber
  if place < 0 then fault setting s!"negative field index ${place}"
  else pure place.toNat

/-! ## Functions that every script has -/

/-- A pattern that a value describes. -/
def patternOf (setting : Setting) (value : Value) : Runner Pattern := do
  match Pattern.read (← textOf value) with
  | .ok pattern => pure pattern
  | .error reason => fault setting reason

/-- A part of a text. -/
def partOf
    (text : Octets)
    (start : Floating)
    (length : Option Floating) : Octets :=
  let chars := text.toList
  let start := Value.wholeOf (match start with
    | .undefined _ => .zero
    | other => other)
  let most : Int :=
    match length with
    | none => chars.length
    | some number => Value.wholeOf number - min 0 start
  let skipped := (max 1 start - 1).toNat
  if chars.length ≤ skipped then ""
  else String.ofList ((chars.drop skipped).take (min most chars.length).toNat)

/-- The place of a text in another one, from one on, or zero. -/
def placeIn (text sought : List Char) : Nat -> Nat
  | count =>
      match text with
      | [] => if sought.isEmpty then count + 1 else 0
      | _ :: rest => if sought.isPrefixOf text then count + 1 else placeIn rest sought (count + 1)

/-- The next number by chance, from zero to one. -/
def chance : Runner Value := do
  let next := ((← get).chance * 6364136223846793005 + 1442695040888963407) % 18446744073709551616
  modify fun state => { state with chance := next }
  pure (.number ((Floating.ofNat (next >>> 11)).div (Floating.ofNat 9007199254740992)))

/-- The present, in milliseconds. -/
def present : Runner Int :=
  ask .date

/-- Start the numbers by chance anew; the result is what they started from before. -/
def startChance (value : Option Value) : Runner Value := do
  let old := (← get).seed
  let seed ←
    match value with
    | some value => pure value.toNumber
    | none => do pure (Floating.ofInt ((← present) / 1000))
  let number := ((seed.whole?.getD 0).emod 9223372036854775808).toNat
  modify fun state => { state with seed, chance := 2 * number + 1 }
  pure (.number old)

/-- The zone in which dates are shown. -/
def zoneOf (setting : Setting) : Zone :=
  Zone.ofEnvironment setting.launch.environment

/-- A date by a format. -/
def dateText (setting : Setting) (args : List Value) : Runner Value := do
  let format ←
    match args with
    | format :: _ => textOf format
    | [] => pure "%c"
  let instant ←
    match args.drop 1 with
    | seconds :: _ => pure (Value.wholeOf seconds.toNumber * 1000)
    | [] => present
  let isUniversal := ((args.drop 2).head?.map Value.isTrue).getD false
  let zone := if isUniversal then Zone.ofText "UTC0" else zoneOf setting
  pure (.text ({ instant, zone : Moment }.format format))

/-- The number of seconds of a date that is written with its numbers. -/
def dateNumber (setting : Setting) (text : Octets) : Value :=
  let numbers := (Separator.words (text.length + 1) text.toList).filterMap integer?
  match numbers with
  | year :: month :: day :: hour :: minute :: second :: _ =>
      let months := year * 12 + month - 1
      let days := Moment.dayNumber (months / 12) ((months % 12).toNat + 1) 1 + day - 1
      let seconds := days * 86400 + hour * 3600 + minute * 60 + second
      .number (Floating.ofInt (seconds - (zoneOf setting).offset))
  | _ => .number (Floating.ofInt (-1))

/-- Run a command of the shell; the result says how it has ended. -/
def runCommand (setting : Setting) (command : Octets) : Runner Value := do
  flushAll setting
  let ending ← (inCopy do
    let fault ← setting.starter "/bin/sh"
      { name := "/bin/sh", args := ["-c", command], environment := setting.launch.environment }
    warn "/bin/sh" fault.text
    pure 127 : Act Ending)
  pure (.ofNat (endingNumber ending))

/-- Find a match, and note where it is. -/
def findMatch (text : Octets) (pattern : Pattern) : Runner Value := do
  let subject : Regex.Subject := { chars := text.toList.toArray }
  let (place, length) : Nat × Int :=
    match pattern.regex.search? subject 0 with
    | some found => (found.start + 1, (found.stop : Int) - found.start)
    | none => (0, -1)
  setGlobal "RSTART" (.ofNat place)
  setGlobal "RLENGTH" (.number (Floating.ofInt length))
  pure (.ofNat place)

/-- Whether a pattern matches a text. -/
def isMatch (pattern : Pattern) (text : Octets) : Bool :=
  (pattern.regex.search? { chars := text.toList.toArray } 0).isSome

/-- The result of a function of numbers. -/
def numberFunction (function : Builtin) (value : Floating) : Floating :=
  match function with
  | .cosine => Curves.cosine value
  | .exponential => Curves.exponential value
  | .whole => value.truncate
  | .logarithm => Curves.logarithm value
  | .sine => Curves.sine value
  | .root => value.squareRoot
  | _ => value

/-- The result of a function whose arguments are no more than values. -/
def callValues
    (setting : Setting)
    (function : Builtin)
    (args : List Value) : Runner Value := do
  let first := args.headD .unset
  let second := (args.drop 1).headD .unset
  match function with
  | .angle => pure (.number (Curves.angle first.toNumber second.toNumber))
  | .close => close setting (← textOf first)
  | .flush => do
      flushAll setting
      pure (.ofNat 0)
  | .index => do
      let text ← textOf first
      let sought ← textOf second
      pure (.ofNat (placeIn text.toList sought.toList 0))
  | .length => do pure (.ofNat (← textOf first).length)
  | .dateNumber => do pure (dateNumber setting (← textOf first))
  | .random => chance
  | .seed => startChance args.head?
  | .date => dateText setting args
  | .format => do
      let formatted := Value.formatted (← conversion) (← textOf first) (args.drop 1)
      match formatted.fault with
      | none => pure (.text formatted.text)
      | some reason => fault setting (reason.replace " printf(" " sprintf(")
  | .part => do
      let text ← textOf first
      pure (.text (partOf text second.toNumber ((args.drop 2).head?.map Value.toNumber)))
  | .run => runCommand setting (← textOf first)
  | .now => do pure (.number (Floating.ofInt ((← present) / 1000)))
  | .lower => do pure (.text (← textOf first).toLower)
  | .upper => do pure (.text (← textOf first).toUpper)
  | _ => pure (.number (numberFunction function first.toNumber))

/-! ## Expressions and statements -/

/-- What a name stands for when it is handed to a function. -/
def handed (setting : Setting) (name : Octets) : Runner Slot := do
  let home ← homeOf name
  match ← slotIn home name with
  | .array number => pure (.array number)
  | .outer call origin => pure (.outer call origin)
  | .value .unset =>
      if home.isNone && name == "NF" then do pure (.value (← valueOf setting name))
      else pure (.outer home name)
  | .value value => pure (.value value)

mutual

/-- The value of an expression. -/
def eval (setting : Setting) : Nat -> Expr -> Runner Value
  | 0, _ => pure .unset
  | fuel + 1, expr => do
      let number (expr : Expr) : Runner Floating := do
        pure (← eval setting fuel expr).toNumber
      match expr with
      | .number value => pure (.number value)
      | .text text => pure (.text text)
      | .pattern pattern => do pure (.ofBool (isMatch pattern (← get).record))
      | .variable name => valueOf setting name
      | .element _ _ | .field _ => do
          let target ← targetOf setting fuel expr
          load setting target
      | .assign target value => do
          let place ← targetOf setting fuel target
          let value ← eval setting fuel value
          store setting place value
          pure value
      | .update operator target value => do
          let place ← targetOf setting fuel target
          let second ← number value
          let first := (← load setting place).toNumber
          let result : Value := .number (Value.calculate Curves.power operator first second)
          store setting place result
          pure result
      | .step target isUp isBefore => do
          let place ← targetOf setting fuel target
          let old := (← load setting place).toNumber
          let new := if isUp then old.add .one else old.sub .one
          store setting place (.number new)
          pure (.number (if isBefore then new else old))
      | .choose condition yes no => do
          let isYes := (← eval setting fuel condition).isTrue
          eval setting fuel (if isYes then yes else no)
      | .either first second => do
          if (← eval setting fuel first).isTrue then pure (.ofBool true)
          else do pure (.ofBool (← eval setting fuel second).isTrue)
      | .both first second => do
          if (← eval setting fuel first).isTrue then
            pure (.ofBool (← eval setting fuel second).isTrue)
          else pure (.ofBool false)
      | .not operand => do pure (.ofBool (!(← eval setting fuel operand).isTrue))
      | .negate operand => do pure (.number (← number operand).negate)
      | .toNumber operand => do pure (.number (← number operand))
      | .compare how first second => do
          let first ← eval setting fuel first
          let second ← eval setting fuel second
          pure (.ofBool (Value.compares (← conversion) how first second))
      | .isMatch inverted subject pattern => do
          let text ← textOf (← eval setting fuel subject)
          let pattern ← patternIn setting fuel pattern
          pure (.ofBool (isMatch pattern text != inverted))
      | .hasKey keys array => do
          let key ← keyOf setting fuel keys
          let place ← arrayOf array
          let (found, after) := (← table place).find key none
          setTable place after
          pure (.ofBool found.isSome)
      | .join first second => do
          let first ← textOf (← eval setting fuel first)
          let second ← textOf (← eval setting fuel second)
          pure (.text (first ++ second))
      | .combine operator first second => do
          let first ← number first
          let second ← number second
          pure (.number (Value.calculate Curves.power operator first second))
      | .call name args => call setting fuel name args
      | .builtin function args => callBuiltin setting fuel function args
      | .readLine source origin target => readLine setting fuel source origin target

/-- The values of expressions. -/
def evalAll (setting : Setting) : Nat -> List Expr -> Runner (List Value)
  | 0, _ | _, [] => pure []
  | fuel + 1, expr :: rest => do
      let value ← eval setting fuel expr
      let others ← evalAll setting fuel rest
      pure (value :: others)

/-- The pattern that an expression describes. -/
def patternIn (setting : Setting) : Nat -> Expr -> Runner Pattern
  | 0, _ => pure { text := "", regex := .empty }
  | fuel + 1, expr =>
      match expr with
      | .pattern pattern => pure pattern
      | _ => do
          let value ← eval setting fuel expr
          patternOf setting value

/-- The key that some expressions describe. -/
def keyOf (setting : Setting) : Nat -> List Expr -> Runner Key
  | 0, _ => pure (.text "")
  | fuel + 1, keys => do
      let values ← evalAll setting fuel keys
      match values with
      | [value] => pure (value.toKey (← conversion))
      | _ => do
          let texts ← values.mapM textOf
          pure (.text (String.intercalate (← globalText "SUBSEP") texts))

/-- The place that an expression describes. -/
def targetOf (setting : Setting) : Nat -> Expr -> Runner Target
  | 0, _ => pure (.field 0)
  | fuel + 1, expr => do
      match expr with
      | .variable name => pure (.name name)
      | .element array keys => do
          let key ← keyOf setting fuel keys
          let place ← arrayOf array
          let _ ← elementOf place key
          pure (.element place key)
      | .field place => do
          let value ← eval setting fuel place
          pure (.field (← placeOf setting value))
      | _ => pure (.name "")

/-- What the arguments of a function stand for. -/
def slotsOf (setting : Setting) : Nat -> List Octets -> List Expr -> Runner (List (Octets × Slot))
  | 0, _, _ | _, [], _ => pure []
  | fuel + 1, name :: names, args => do
      let slot ←
        match args with
        | [] => pure (.value .unset)
        | .variable other :: _ => handed setting other
        | expr :: _ => do
            let value ← eval setting fuel expr
            pure (.value value)
      let others ← slotsOf setting fuel names (args.drop 1)
      pure ((name, slot) :: others)

/-- The value of a function of the script. -/
def call (setting : Setting) : Nat -> Octets -> List Expr -> Runner Value
  | 0, _, _ => pure .unset
  | fuel + 1, name, args => do
      match setting.script.functions.lookup name with
      | none => pure .unset
      | some function => do
          let slots ← slotsOf setting fuel function.parameters args
          modify fun state => { state with calls := slots :: state.calls }
          let result ←
            try
              exec setting fuel function.body
              pure .unset
            catch leave =>
              match leave with
              | .return value => pure value
              | other => throw other
          modify fun state => { state with calls := state.calls.drop 1 }
          pure result

/-- The value of a function that every script has. -/
def callBuiltin (setting : Setting) : Nat -> Builtin -> List Expr -> Runner Value
  | 0, _, _ => pure .unset
  | fuel + 1, function, args => do
      match function, args with
      | .length, [] => do pure (.ofNat (← get).record.length)
      | .length, [.variable name] => do
          match ← slotIn (← homeOf name) name with
          | .array number => do pure (.ofNat (← table number).size)
          | .outer _ _ => do pure (.ofNat (← table (← arrayOf name)).size)
          | .value _ => callValues setting .length [← valueOf setting name]
      | .find, [text, pattern] => do
          let text ← textOf (← eval setting fuel text)
          let pattern ← patternIn setting fuel pattern
          findMatch text pattern
      | .split, text :: .variable array :: rest => do
          let text ← textOf (← eval setting fuel text)
          let separator ←
            match rest with
            | [] => separator setting
            | .pattern pattern :: _ => pure (.pattern pattern.regex)
            | expr :: _ => do
                match Separator.ofText (← textOf (← eval setting fuel expr)) with
                | .ok separator => pure separator
                | .error reason => fault setting reason
          let parts := (separator.split text).map Value.input
          let number ← arrayOf array
          setTable number (.ofList parts)
          pure (.ofNat parts.length)
      | .replace, pattern :: replacement :: rest
      | .replaceAll, pattern :: replacement :: rest => do
          let pattern ← patternIn setting fuel pattern
          let replacement ← textOf (← eval setting fuel replacement)
          let expr := rest.headD (.field (.number .zero))
          if expr.isTarget then
            let target ← targetOf setting fuel expr
            let old ← textOf (← load setting target)
            let (text, count) := replaced pattern.regex replacement old (function == .replaceAll)
            if 0 < count then store setting target (.text text)
            pure (.ofNat count)
          else do
            let old ← textOf (← eval setting fuel expr)
            pure (.ofNat (replaced pattern.regex replacement old (function == .replaceAll)).2)
      | _, _ => do
          let values ← evalAll setting fuel args
          callValues setting function values

/-- Read a line; the value says whether there was one. -/
def readLine (setting : Setting) :
    Nat -> LineSource -> Option Expr -> Option Expr -> Runner Value
  | 0, _, _, _ => pure .unset
  | fuel + 1, source, origin, target => do
      let name ←
        match origin with
        | some expr => do
            let value ← eval setting fuel expr
            textOf value
        | none => pure ""
      let place : Target ←
        match target with
        | some expr => targetOf setting fuel expr
        | none => pure (.field 0)
      let found : Except Unit (Option Octets) ←
        match source with
        | .records => do
            let record ← nextRecord setting manyTurns
            pure (.ok record)
        | .file => readFrom setting false name
        | .command => readFrom setting true name
      match found with
      | .error _ => pure (.number (Floating.ofInt (-1)))
      | .ok none => pure (.ofNat 0)
      | .ok (some text) => do
          match place with
          | .field 0 => setRecord text
          | _ => store setting place (.input text)
          pure (.ofNat 1)

/-- Where something is printed. -/
def redirected (setting : Setting) :
    Nat -> Option (Redirection × Expr) -> Runner (Option (Redirection × Octets))
  | 0, _ | _, none => pure none
  | fuel + 1, some (how, expr) => do
      let value ← eval setting fuel expr
      pure (some (how, ← textOf value))

/-- Carry out a turn of a loop; the result says whether it goes on. -/
def turn (setting : Setting) : Nat -> Statement -> Runner Bool
  | 0, _ => pure false
  | fuel + 1, body =>
      try
        exec setting fuel body
        pure true
      catch leave =>
        match leave with
        | .break => pure false
        | .continue => pure true
        | other => throw other

/-- Carry out a loop. -/
def loop (setting : Setting) : Nat -> Option Expr -> Option Expr -> Statement -> Runner Unit
  | 0, _, _, _ => pure ()
  | fuel + 1, condition, step, body => do
      let goesOn ←
        match condition with
        | some expr => do
            let value ← eval setting fuel expr
            pure value.isTrue
        | none => pure true
      if goesOn then
        if ← turn setting fuel body then
          match step with
          | some expr => do
              let _ ← eval setting fuel expr
          | none => pure ()
          loop setting fuel condition step body

/-- Carry out a loop over keys. -/
def keyLoop (setting : Setting) : Nat -> Octets -> List Octets -> Statement -> Runner Unit
  | 0, _, _, _ | _, _, [], _ => pure ()
  | fuel + 1, name, key :: keys, body => do
      setVariable setting name (.text key)
      if ← turn setting fuel body then keyLoop setting fuel name keys body

/-- Carry out statements one after another. -/
def execAll (setting : Setting) : Nat -> List Statement -> Runner Unit
  | 0, _ | _, [] => pure ()
  | fuel + 1, statement :: rest => do
      exec setting fuel statement
      execAll setting fuel rest

/-- Carry out a statement. -/
def exec (setting : Setting) : Nat -> Statement -> Runner Unit
  | 0, _ => pure ()
  | fuel + 1, statement => do
      match statement with
      | .expression expr => do
          let _ ← eval setting fuel expr
      | .print args target => do
          let values ← evalAll setting fuel args
          let format := (← global "OFMT").toText "%.6g"
          let texts := values.map fun value => value.toText format
          let text ←
            if args.isEmpty then do pure (← get).record
            else do pure (String.intercalate (← globalText "OFS") texts)
          let place ← redirected setting fuel target
          write setting place (text ++ (← globalText "ORS"))
      | .printFormat args target => do
          let values ← evalAll setting fuel args
          let place ← redirected setting fuel target
          let format ← textOf (values.headD .unset)
          let formatted := Value.formatted (← conversion) format (values.drop 1)
          write setting place formatted.text
          match formatted.fault with
          | none => pure ()
          | some reason => fault setting reason
      | .block body => execAll setting fuel body
      | .choose condition yes no => do
          if (← eval setting fuel condition).isTrue then exec setting fuel yes
          else
            match no with
            | some no => exec setting fuel no
            | none => pure ()
      | .loop condition body => loop setting fuel (some condition) none body
      | .loopAfter body condition => do
          if ← turn setting fuel body then loop setting fuel (some condition) none body
      | .count start condition step body => do
          match start with
          | some expr => do
              let _ ← eval setting fuel expr
          | none => pure ()
          loop setting fuel condition step body
      | .forKeys name array body => do
          let number ← arrayOf array
          let (keys, after) := (← table number).keys
          setTable number after
          keyLoop setting fuel name keys body
      | .next => throw .next
      | .nextFile => throw .nextFile
      | .exit status => do
          match status with
          | some expr => do
              let value ← eval setting fuel expr
              let number := (Value.wholeOf value.toNumber).emod 256
              modify fun state => { state with status := number.toNat }
          | none => pure ()
          throw .exit
      | .return value => do
          match value with
          | some expr => do
              let value ← eval setting fuel expr
              throw (.return value)
          | none => throw (.return .unset)
      | .break => throw .break
      | .continue => throw .continue
      | .delete array keys => do
          let key ← keyOf setting fuel keys
          let number ← arrayOf array
          let old ← table number
          setTable number (old.delete key)
      | .deleteAll array => do
          let number ← arrayOf array
          setTable number {}

end

/-! ## Records -/

/-- Whether a rule is for the record; the number is that of the rule. -/
def selects
    (setting : Setting)
    (place : Nat)
    (selection : Selection) : Runner Bool := do
  match selection with
  | .all => pure true
  | .when condition => do
      let value ← eval setting manyTurns condition
      pure value.isTrue
  | .range first last => do
      let hasStarted := (← get).ranges.getD place false
      let starts ←
        if hasStarted then pure true
        else do
          let value ← eval setting manyTurns first
          pure value.isTrue
      if !starts then pure false
      else do
        let value ← eval setting manyTurns last
        modify fun state => { state with ranges := state.ranges.set! place !value.isTrue }
        pure true

/-- Carry out the rules for the record, from one on. -/
def applyRules (setting : Setting) : Nat -> List Rule -> Runner Unit
  | _, [] => pure ()
  | place, rule :: rest => do
      if ← selects setting place rule.selection then
        match rule.body with
        | some body => exec setting manyTurns body
        | none => exec setting manyTurns (.print [] none)
      applyRules setting (place + 1) rest

/-- Carry out the rules for all records; the number bounds them. -/
def applyAll (setting : Setting) : Nat -> Runner Unit
  | 0 => pure ()
  | fuel + 1 => do
      match ← nextRecord setting manyTurns with
      | none => pure ()
      | some text => do
          setRecord text
          try applyRules setting 0 setting.script.rules
          catch leave =>
            match leave with
            | .next => pure ()
            | .nextFile => closeMain
            | other => throw other
          modify fun state => { state with calls := [] }
          applyAll setting fuel

/-- Carry out a part of the script; the result says whether the script goes on as usual. -/
def untilExit (body : Runner Unit) : Runner Bool := do
  try
    body
    pure true
  catch leave =>
    match leave with
    | .mistake => throw .mistake
    | _ => pure false

/-- Carry out the script. -/
def runScript (setting : Setting) : Runner Unit := do
  let script := setting.script
  let goesOn ← untilExit (execAll setting manyTurns script.starts)
  modify fun state => { state with calls := [] }
  if goesOn && !(script.rules.isEmpty && script.ends.isEmpty) then
    let _ ← untilExit (applyAll setting manyTurns)
  modify fun state => { state with calls := [] }
  let _ ← untilExit (execAll setting manyTurns script.ends)

end Runner
end Records
end Programs
end CameraFleet
