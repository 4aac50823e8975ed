import CameraFleet.Programs.Copy
import CameraFleet.Programs.DateReader

/-!
# Showing dates

A date that is described, or the present one, is shown in a format.
-/

namespace CameraFleet
namespace Programs

open Host

namespace ShowDate

/-- The formats for dates that are exact up to a unit. -/
def exactFormats : List (Octets × Octets) :=
  [("hours", "%Y-%m-%dT%H%:z"), ("minutes", "%Y-%m-%dT%H:%M%:z"), ("date", "%Y-%m-%d"),
    ("seconds", "%Y-%m-%dT%H:%M:%S%:z"), ("ns", "%Y-%m-%dT%H:%M:%S,%N%:z")]

/-- The formats for dates with a blank before the time. -/
def spacedFormats : List (Octets × Octets) :=
  [("date", "%Y-%m-%d"), ("seconds", "%Y-%m-%d %H:%M:%S%:z"),
    ("ns", "%Y-%m-%d %H:%M:%S.%N%:z")]

/-- The format that is used if none is given. -/
def usualFormat : Octets := "%a %b %e %H:%M:%S %Z %Y"

/-- The format of a name, which may be shortened, or what is wrong with the name. -/
def named
    (option : Octets)
    (formats : List (Octets × Octets))
    (name : Octets) : Except Octets Octets :=
  match formats.filter fun (full, _) => full.startsWith name with
  | [(_, format)] => .ok format
  | _ =>
      let names := String.join (formats.map fun (full, _) => s!"\n  - '{full}'")
      .error s!"invalid argument {Quoted.plain name} for '--{option}'\nValid arguments are:{names}"

/-- The format that options and operands ask for, or what is wrong with them. -/
def formatOf
    (given : List Given)
    (operands : List Octets) : Except Octets (Option Octets) := do
  let fromOptions ← (given.filter fun option => ['I', 'R', '3'].contains option.letter).mapM
    fun option =>
      match option.letter with
      | 'I' => named "iso-8601" exactFormats (option.argument.getD "date")
      | '3' => named "rfc-3339" spacedFormats (option.argument.getD "")
      | _ => pure "%a, %d %b %Y %H:%M:%S %z"
  let fromOperands := operands.filterMap fun operand =>
    if operand.startsWith "+" then some (String.ofList (operand.toList.drop 1)) else none
  match fromOptions ++ fromOperands with
  | [] => pure none
  | [format] => pure (some format)
  | _ => throw "multiple output formats specified"

/-- The options. -/
def options : OptionTable where
  letters :=
    [('d', .something), ('f', .something), ('I', .perhaps), ('r', .something), ('R', .nothing),
      ('s', .something), ('u', .nothing)]
  words :=
    [("date", 'd', .something), ("file", 'f', .something), ("iso-8601", 'I', .perhaps),
      ("reference", 'r', .something), ("rfc-email", 'R', .nothing), ("rfc-2822", 'R', .nothing),
      ("rfc-822", 'R', .nothing), ("rfc-3339", '3', .something), ("set", 's', .something),
      ("universal", 'u', .nothing), ("utc", 'u', .nothing), ("uct", 'u', .nothing)]

/-- Show the dates that some texts describe. -/
def showAll
    (name format : Octets)
    (now : Moment) : Nat -> List Octets -> Act Nat
  | status, [] => pure status
  | status, text :: rest =>
      match now.read? text with
      | none => do
          warn name s!"invalid date {Quoted.plain text}"
          showAll name format now 1 rest
      | some instant => do
          let shown := { now with instant }.format format ++ "\n"
          let wasShown ← printing name shown status
          showAll name format now wasShown rest

end ShowDate

/-- Show a date. -/
def date : Program :=
  withOptions ShowDate.options 1 fun launch given operands => do
    let zone := if isGiven given 'u' then {} else Zone.ofEnvironment launch.environment
    let now : Moment := { instant := ← Act.call .date, zone }
    match ShowDate.formatOf given operands, operands.drop 1 with
    | .error reason, _ =>
        if reason.startsWith "multiple" then fail launch.name reason 1
        else misuse launch.name reason 1
    | .ok _, extra :: _ => misuse launch.name s!"extra operand {Quoted.plain extra}" 1
    | .ok format, [] => do
        let format := format.getD ShowDate.usualFormat
        match operands, given.reverse.find? fun option => ['d', 'f', 'r'].contains option.letter with
        | [operand], none =>
            if operand.startsWith "+" then printing launch.name (now.format format ++ "\n") 0
            else fail launch.name s!"invalid date {Quoted.plain operand}" 1
        | _, none => printing launch.name (now.format format ++ "\n") 0
        | _, some { letter := 'r', argument } => do
            let path := argument.getD ""
            match ← Act.call (.look path true) with
            | .error fault => fail launch.name s!"{Quoted.wordIfNeeded path}: {fault.text}" 1
            | .ok sight =>
                let moment : Moment := { now with instant := sight.changed }
                printing launch.name (moment.format format ++ "\n") 0
        | _, some { letter := 'f', argument } => do
            let path := argument.getD ""
            let read ← do
              match ← openInput path with
              | .error fault => pure (.error fault)
              | .ok descriptor => do
                  let found ← readAll descriptor
                  closeInput descriptor
                  pure found
            match read with
            | .error fault => fail launch.name s!"{Quoted.wordIfNeeded path}: {fault.text}" 1
            | .ok bytes =>
                ShowDate.showAll launch.name format now 0 (linesOf (Octets.ofBytes bytes)).1
        | _, some { argument, .. } =>
            ShowDate.showAll launch.name format now 0 [argument.getD ""]

end Programs
end CameraFleet
