import CameraFleet.Programs.Format
import CameraFleet.Programs.Options

/-!
# Programs that print their operands

They read nothing; what they print depends on their operands alone.
-/

namespace CameraFleet
namespace Programs

open Host

/-- The letters of the options with which operands may be echoed. -/
def isEchoOption (arg : Octets) : Bool :=
  match arg.toList with
  | '-' :: first :: rest => (first :: rest).all ['n', 'e', 'E'].contains
  | _ => false

/-- Some operands with their escapes replaced, and whether an escape ends them. -/
def echoed : List Octets -> Octets × Bool
  | [] => ("", false)
  | operand :: rest =>
      match Escape.replaceAll .echo operand with
      | (text, some _) => (text, true)
      | (text, none) =>
          if rest.isEmpty then (text, false)
          else
            let (others, ends) := echoed rest
            (text ++ " " ++ others, ends)

/-- Print the operands with blanks between them. -/
def echo : Program := fun launch => do
  let options := launch.args.takeWhile isEchoOption
  let operands := launch.args.dropWhile isEchoOption
  let letters := (String.join options).toList
  let replaces := (letters.reverse.find? fun c => c == 'e' || c == 'E') == some 'e'
  let (text, ends) :=
    if replaces then echoed operands else (String.intercalate " " operands, false)
  let ending := if ends || letters.contains 'n' then "" else "\n"
  printing launch.name (text ++ ending) 0

/-- The flags that go with a conversion. -/
def mayHave (conversion flag : Char) : Bool :=
  match flag with
  | '\'' | 'I' => ['d', 'i', 'u', 'f', 'F', 'g', 'G'].contains conversion
  | '#' => ['a', 'A', 'e', 'E', 'f', 'F', 'g', 'G', 'o', 'x', 'X'].contains conversion
  | '0' => conversion != 'c' && conversion != 's'
  | _ => true

/-- What is wrong with a directive of the format program. -/
def formatFault? (written : DirectiveText) (shown : Octets) : Option Octets :=
  let wrong : Option Octets := some s!"{shown}: invalid conversion specification"
  match written.rest with
  | [] => wrong
  | conversion :: _ =>
      let known := ['a', 'A', 'c', 'd', 'e', 'E', 'f', 'F', 'g', 'G', 'i', 'o', 's', 'u', 'x', 'X']
      if conversion == 'b' || conversion == 'q' then
        if written.flags.isEmpty && written.width == some 0 && written.precision.isNone then none
        else wrong
      else if !known.contains conversion then wrong
      else if !written.flags.all (mayHave conversion) then wrong
      else if conversion == 'c' && written.precision.isSome then wrong
      else none

/-- How the format program understands formats. -/
def formatStyle : FormatStyle where
  format := .format
  operand := .operand
  bits := 64
  noNumber := fun text => s!"{Quoted.plain text}: expected a numeric value"
  partly := fun text => s!"{Quoted.plain text}: value not completely converted"
  tooLarge := fun text => s!"{Quoted.plain text}: Numerical result out of range"
  isStrict := true
  directiveFault? := formatFault?

/-- Print by a format. -/
def printf : Program := fun launch => do
  let args :=
    match launch.args with
    | "--" :: rest => rest
    | args => args
  match args with
  | [] => misuse launch.name "missing operand" 1
  | format :: operands => do
      let printed := Printing.run formatStyle format operands
      for (text, _) in printed.complaints.reverse do
        warn launch.name text
      let failed := printed.complaints.any fun (_, mild) => !mild
      match printed.ended with
      | some .stop => printing launch.name printed.output 0
      | some (.wrong reason) => do
          warn launch.name reason
          printing launch.name printed.output 1
      | none => do
          match printed.operands, printed.asked with
          | first :: _, false =>
              warn launch.name
                s!"warning: ignoring excess arguments, starting with {Quoted.plain first}"
          | _, _ => pure ()
          printing launch.name printed.output (if failed then 1 else 0)

/-- So many copies of a line that together fill a block. -/
def lineBlock (line : Octets) : ByteArray :=
  Octets.toBytes (String.join (List.replicate (8192 / line.length + 1) line))

/-- Write a block again and again. -/
def writeForever (name : Octets) (bytes : ByteArray) : Nat -> Act Nat
  | 0 => pure 1
  | turns + 1 => do
      if ← emit name bytes then writeForever name bytes turns else pure 1

/-- Print the operands, or a letter, line after line. -/
def yes : Program :=
  withOptions {} 1 fun launch _ operands => do
    let line := if operands.isEmpty then "y" else String.intercalate " " operands
    writeForever launch.name (lineBlock (line ++ "\n")) manyTurns

/-- Do nothing, with success. -/
def succeed : Program := fun _ => pure 0

/-- Do nothing, without success. -/
def refuse : Program := fun _ => pure 1

/-- A path without the slashes at its end, but not without its only slash. -/
def withoutSlashes (path : Octets) : Octets :=
  let kept := path.toList.reverse.dropWhile (· == '/')
  if kept.isEmpty && !path.isEmpty then "/" else String.ofList kept.reverse

/-- The last name of a path. -/
def lastName (path : Octets) : Octets :=
  let trimmed := withoutSlashes path
  if trimmed == "/" then trimmed
  else String.ofList (trimmed.toList.reverse.takeWhile (· != '/')).reverse

/-- A path without its last name. -/
def directoryName (path : Octets) : Octets :=
  let trimmed := (withoutSlashes path).toList.reverse
  match trimmed.dropWhile (· != '/') with
  | [] => "."
  | rest => withoutSlashes (String.ofList rest.reverse)

/-- A name without an ending that is not the whole name. -/
def withoutEnding (name ending : Octets) : Octets :=
  if name.endsWith ending && name != ending then
    String.ofList (name.toList.take (name.length - ending.length))
  else name

/-- The end of a printed item. -/
def itemEnd (given : List Given) : Octets :=
  if isGiven given 'z' then "\x00" else "\n"

/-- Print the last name of a path. -/
def basename : Program :=
  withOptions
    { letters := [('a', .nothing), ('s', .something), ('z', .nothing)]
      words := [("multiple", 'a', .nothing), ("suffix", 's', .something), ("zero", 'z', .nothing)]
      permutes := false } 1 fun launch given operands => do
    let each := isGiven given 'a' || isGiven given 's'
    let shown (ending path : Octets) : Octets :=
      withoutEnding (lastName path) ending ++ itemEnd given
    match operands, each with
    | [], _ => misuse launch.name "missing operand" 1
    | _, true =>
        let ending := (argumentOf? given 's').getD ""
        printing launch.name (String.join (operands.map (shown ending))) 0
    | [path], false => printing launch.name (shown "" path) 0
    | [path, ending], false => printing launch.name (shown ending path) 0
    | _ :: _ :: extra :: _, false => misuse launch.name s!"extra operand {Quoted.plain extra}" 1

/-- Print paths without their last names. -/
def dirname : Program :=
  withOptions
    { letters := [('z', .nothing)], words := [("zero", 'z', .nothing)] } 1
    fun launch given operands =>
      if operands.isEmpty then misuse launch.name "missing operand" 1
      else
        let paths := operands.map fun path => directoryName path ++ itemEnd given
        printing launch.name (String.join paths) 0

end Programs
end CameraFleet
