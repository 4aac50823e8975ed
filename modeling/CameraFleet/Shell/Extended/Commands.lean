import CameraFleet.Programs.Format
import CameraFleet.Shell.Extended.Control
import CameraFleet.Shell.Extended.Descriptions
import CameraFleet.Shell.Extended.Directories
import CameraFleet.Shell.Extended.Lines
import CameraFleet.Shell.Extended.Settings
import CameraFleet.Shell.Settings

/-!
# Commands of the extended shell

Those of the extended shell's commands that run other commands are part of the
interpreter; all others are found here by their names.
-/

namespace CameraFleet
namespace Shell
namespace Extended

open Host
open Programs

/-- The letters of options at the start of what is echoed, and the texts after them. -/
def echoOptions : List Octets -> List Char × List Octets
  | [] => ([], [])
  | arg :: rest =>
      match arg.toList with
      | '-' :: letter :: letters =>
          if (letter :: letters).all ['n', 'e', 'E'].contains then
            let (others, texts) := echoOptions rest
            (letter :: letters ++ others, texts)
          else ([], arg :: rest)
      | _ => ([], arg :: rest)

/-- Print some texts with blanks between them. -/
def echoCommand (args : List Octets) : Sh Nat := do
  let (letters, texts) := echoOptions args
  let text := String.intercalate " " texts
  let ending := if letters.contains 'n' then "" else "\n"
  let settings := (← get).settings
  let replaces :=
    match (letters.filter (· != 'n')).getLast? with
    | some letter => letter == 'e'
    | none => settings.contains "xpg_echo"
  if replaces then
    match Escape.replaceAll .fullEcho text with
    | (replaced, some _) => Sh.print replaced
    | (replaced, none) => Sh.print (replaced ++ ending)
  else Sh.print (text ++ ending)
  pure 0

/-- What is wrong with a directive of the format command. -/
def directiveFault? (written : DirectiveText) (shown : Octets) : Option Octets :=
  match written.rest with
  | [] => some s!"\x60{shown}': missing format character"
  | conversion :: _ =>
      if "bcsdiouxXaAeEfFgGqQ".toList.contains conversion then none
      else some s!"\x60{String.singleton conversion}': invalid format character"

/-- How the format command understands formats. -/
def formatStyle : FormatStyle where
  format := .fullFormat
  operand := .fullOperand
  bits := 64
  noNumber := fun text => s!"{text}: invalid number"
  partly := fun text => s!"{text}: invalid number"
  tooLarge := fun text => s!"warning: {text}: Numerical result out of range"
  isStrict := false
  directiveFault? := directiveFault?
  quote := Quoting.withBackslashes

/-- Print by a format, or give a parameter what would be printed. -/
def printfCommand (args : List Octets) : Sh Nat := do
  let (given, rest) ← options [('v', true)] args
  match rest with
  | [] => tellUsage
  | format :: texts => do
      let printed := Printing.run formatStyle format texts
      for (text, _) in printed.complaints.reverse do
        Sh.warn text
      match given.lookup 'v' with
      | some name => do
          let (base, key) := Operand.splitKey name.toList
          if ← isNamed name (String.ofList base) then
            assignGiven (String.ofList base) key false (.one printed.output)
          else
            modify ({ · with status := 2 })
            Sh.jump .mistake
      | none => Sh.print printed.output
      match printed.ended with
      | some (.wrong reason) => refuse 1 reason
      | _ => pure (if printed.complaints.isEmpty then 0 else 1)

/-- Show the time that has been used. -/
def timesCommand (_ : List Octets) : Sh Nat := do
  let line := "0m0.000s 0m0.000s\n"
  Sh.print (line ++ line)
  pure 0

/-- Show or change the mask of rights that new files do not get. -/
def umaskCommand (args : List Octets) : Sh Nat := do
  let (given, rest) ← options (flags "pS") args
  let letters := given.map (·.1)
  match rest with
  | [] => do
      if letters.contains 'p' then Sh.print (if letters.contains 'S' then "umask -S " else "umask ")
      changeMask (if letters.contains 'S' then ["-S"] else [])
  | text :: _ =>
      let isNumber := text.toList.head?.any Char.isDigit
      if isNumber && ((Rights.octal? text).filter (· < 512)).isNone then
        complain s!"{text}: octal number out of range"
      else if !isNumber && (Rights.described? text 0 false 0).isNone then
        complain s!"\x60{text}': invalid symbolic mode operator"
      else changeMask [text]

/-- Find the next option and tell parameters of it. -/
def getoptsCommand (args : List Octets) : Sh Nat := do
  match ← operands args with
  | wanted :: name :: rest => do
      let state ← get
      let args := if rest.isEmpty then state.args else rest
      let found := findOption wanted.toList args state.optionNext state.optionPlace
      let isQuiet := wanted.startsWith ":" || state.value? "OPTERR" == some "0"
      match found.complaint with
      | some text =>
          if !isQuiet then
            let letter := ((text.toList.dropWhile (· != '-')).drop 1).headD ' '
            let what :=
              if text.startsWith "Illegal" then "illegal option"
              else "option requires an argument"
            Sh.act (Act.complain s!"{state.name}: {what} -- {letter}\n")
      | none => pure ()
      match found.argument with
      | some "" | none =>
          modify fun state => { state with bindings := state.bindings.filter (·.1 != "OPTARG") }
      | some argument => Sh.put "OPTARG" none argument
      Sh.put "OPTIND" none (toString found.next)
      modify ({ · with optionNext := found.next, optionPlace := found.place })
      if ← isNamed name name then
        Sh.put name none (String.singleton found.letter)
        pure (if found.ended then 1 else 0)
      else pure 1
  | _ => tellUsage

/-- Show the words that a list gives, of those that start with a text. -/
def compgenCommand (args : List Octets) : Sh Nat := do
  let known := flags "abcdefgjksuv" ++ "oAGWFCXPS".toList.map fun letter => (letter, true)
  let (given, rest) ← options known args
  let start := rest.headD ""
  let words : List Octets :=
    given.flatMap fun (letter, value) =>
      if letter == 'W' then (value.splitOn " ").filter (!·.isEmpty)
      else if letter == 'b' then commandNames
      else if letter == 'k' then Token.keywords .extended
      else []
  let found := words.filter (·.startsWith start)
  for word in found do
    Sh.print s!"{word}\n"
  pure (if found.isEmpty then 1 else 0)

/-- A command that has nothing to do without a terminal. -/
def idle (_ : List Octets) : Sh Nat := pure 0

/-- What a command that declares parameters does. -/
def declaring? (name : Octets) : Option (List Operand -> Sh Nat) :=
  match name with
  | "declare" | "typeset" => some declareCommand
  | "local" => some localCommand
  | "export" => some exportCommand
  | "readonly" => some readonlyCommand
  | _ => none

/-- What a command does that neither declares parameters nor runs other commands. -/
def command? (name : Octets) : Option (List Octets -> Sh Nat) :=
  match name with
  | ":" | "true" => some idle
  | "false" => some fun _ => pure 1
  | "[" => some Trial.bracket
  | "alias" => some aliasCommand
  | "bg" | "fg" => some resumeJob
  | "bind" | "complete" | "compopt" | "fc" | "history" => some idle
  | "break" => some (leaveLoops false)
  | "caller" => some callerCommand
  | "cd" => some cdCommand
  | "compgen" => some compgenCommand
  | "continue" => some (leaveLoops true)
  | "dirs" => some dirsCommand
  | "disown" => some disownCommand
  | "echo" => some echoCommand
  | "enable" => some enableCommand
  | "exit" => some exitCommand
  | "getopts" => some getoptsCommand
  | "hash" => some hashCommand
  | "help" => some idle
  | "jobs" => some showJobs
  | "kill" => some killCommand
  | "let" => some letCommand
  | "logout" => some fun _ => complain "not login shell: use \x60exit'"
  | "mapfile" | "readarray" => some mapfileCommand
  | "popd" => some popdCommand
  | "printf" => some printfCommand
  | "pushd" => some pushdCommand
  | "pwd" => some pwdCommand
  | "read" => some readCommand
  | "return" => some leaveFunction
  | "set" => some setCommand
  | "shift" => some shiftCommand
  | "shopt" => some shoptCommand
  | "suspend" => some fun _ => complain "cannot suspend: no job control"
  | "test" => some Trial.test
  | "times" => some timesCommand
  | "trap" => some trapCommand
  | "type" => some typeCommand
  | "ulimit" => some changeLimit
  | "umask" => some umaskCommand
  | "unalias" => some unaliasCommand
  | "unset" => some unsetCommand
  | "wait" => some waitCommand
  | _ => none

end Extended
end Shell
end CameraFleet
