import CameraFleet.Programs.Records.Reader
import CameraFleet.Programs.Records.Run

/-!
# Scripts for records

A script is given as an argument or in files, and runs on the records of the
files that are named after it.
-/

namespace CameraFleet
namespace Programs

open Host

namespace Records

/-- What is said before the script. -/
structure Wish where
  /-- What separates fields. -/
  separator : Option Octets := none
  /-- The names that get values, with these. -/
  assignments : List (Octets × Octets) := []
  /-- The files in which the script stands. -/
  files : List Octets := []
  /-- What is left. -/
  operands : List Octets := []
  deriving Repr, DecidableEq

/-- Why the arguments do not lead to a script. -/
inductive Refusal
  /-- There is something to complain about. -/
  | complaint (text : Octets)
  /-- How the program is used. -/
  | usage
  /-- What version it is. -/
  | version
  deriving Repr, DecidableEq

/-- Read what is said before the script; the number bounds the arguments. -/
def Wish.read (wish : Wish) : Nat -> List Octets -> Except Refusal Wish
  | 0, args => .ok { wish with operands := args }
  | fuel + 1, args =>
      match args with
      | [] => .ok wish
      | arg :: rest =>
          match arg.toList with
          | ['-', '-'] => .ok { wish with operands := rest }
          | '-' :: '-' :: word =>
              match String.ofList word with
              | "version" => .error .version
              | "help" | "usage" => .error .usage
              | _ => .error (.complaint s!"not an option: {arg}")
          | '-' :: letter :: attached =>
              if !(['F', 'v', 'f', 'W'].contains letter) then
                .error (.complaint s!"not an option: {arg}")
              else
                let value? :=
                  if attached.isEmpty then rest.head? else some (String.ofList attached)
                let rest := if attached.isEmpty then rest.drop 1 else rest
                match value?, letter with
                | none, _ => .error (.complaint s!"option -{letter} lacks argument")
                | some value, 'F' => read { wish with separator := some value } fuel rest
                | some value, 'f' => read { wish with files := wish.files ++ [value] } fuel rest
                | some value, 'v' =>
                    match Runner.assignment? value with
                    | some pair =>
                        read { wish with assignments := wish.assignments ++ [pair] } fuel rest
                    | none => .error (.complaint s!"improper assignment: -v {value}")
                | some value, _ =>
                    if value.startsWith "v" then .error .version
                    else if value.startsWith "h" || value.startsWith "u" then .error .usage
                    else read wish fuel rest
          | _ => .ok { wish with operands := args }

/-- How the program is used. -/
def usage : Octets :=
  String.intercalate "\n"
    ["Usage: mawk [Options] [Program] [file ...]", "", "Program:",
      "    The -f option value is the name of a file containing program text.",
      "    If no -f option is given, a \"--\" ends option processing; the following",
      "    parameters are the program text.", "", "Options:",
      "    -f program-file  Program  text is read from file instead of from the",
      "                     command-line.  Multiple -f options are accepted.",
      "    -F value         sets the field separator, FS, to value.",
      "    -v var=value     assigns value to program variable var.",
      "    --               unambiguous end of options.", "",
      "    Implementation-specific options are prefixed with \"-W\".  They can be",
      "    abbreviated:", "",
      "    -W version       show version information and exit.",
      "    -W compat        pre-POSIX 2001.",
      "    -W dump          show assembler-like listing of program and exit.",
      "    -W help          show this message and exit.",
      "    -W interactive   set unbuffered output, line-buffered input.",
      "    -W exec file     use file as program as well as last option.",
      "    -W posix         stricter POSIX checking.",
      "    -W random=number set initial random seed.",
      "    -W sprintf=number adjust size of sprintf buffer.",
      "    -W usage         show this message and exit.", ""]

/-- The texts of some files, or the one that cannot be read. -/
def textsOf : List Octets -> Act (Except (Octets × Fault) (List Octets))
  | [] => pure (.ok [])
  | path :: rest => do
      let opened ← if path == "-" then pure (.ok 0) else Act.call (.open path .reading)
      match opened with
      | .error fault => pure (.error (path, fault))
      | .ok descriptor => do
          match ← readAll descriptor with
          | .error fault => pure (.error (path, fault))
          | .ok bytes => do
              if descriptor != 0 then
                let _ ← Act.call (.close descriptor)
              match ← textsOf rest with
              | .error failure => pure (.error failure)
              | .ok others => pure (.ok (Octets.ofBytes bytes :: others))

/-- The values that names have at the start. -/
def firstValues : List (Octets × Value) :=
  [("FS", .text " "), ("OFS", .text " "), ("ORS", .text "\n"), ("RS", .text "\n"),
    ("SUBSEP", .text "\x1c"), ("CONVFMT", .text "%.6g"), ("OFMT", .text "%.6g"),
    ("NR", .ofNat 0), ("FNR", .ofNat 0)]

/-- Make the array of the environment. -/
def setEnvironment (environment : List (Octets × Octets)) : Runner Unit := do
  let number ← Runner.arrayOf "ENVIRON"
  let table : Table Value := environment.foldl
    (fun table (name, value) => table.set (.text name) (.input value)) {}
  Runner.setTable number table

/-- Make the array of the arguments. -/
def setArguments (args : List Octets) : Runner Unit := do
  let number ← Runner.arrayOf "ARGV"
  let table : Table Value := args.zipIdx.foldl
    (fun table (arg, place) => table.set (.number place) (.input arg)) {}
  Runner.setTable number table
  Runner.setGlobal "ARGC" (.ofNat args.length)

/-- Prepare everything and run the script. -/
def whole (setting : Setting) (wish : Wish) (args : List Octets) : Runner Unit := do
  for (name, value) in firstValues do
    Runner.setGlobal name value
  setEnvironment setting.launch.environment
  setArguments (setting.launch.name :: args)
  match wish.separator with
  | some text => Runner.setGlobal "FS" (.text (Runner.unescaped text))
  | none => pure ()
  for (name, value) in wish.assignments do
    Runner.assign setting name value
  Runner.runScript setting

/-- Run a script. -/
def run
    (starter : Starter)
    (launch : Launch)
    (wish : Wish)
    (script : Script)
    (args : List Octets) : Act Nat := do
  let setting : Setting := { launch, starter, script }
  let start : State := { ranges := Array.replicate script.rules.length false }
  let (_, state) ← (whole setting wish args).run start
  let (_, state) ← (Runner.closeAll setting).run state
  pure state.status

/-- Complain about a mistake in a script. -/
def refuseScript
    (name : Octets)
    (files : List Octets)
    (mistake : Mistake) : Act Nat := do
  let file := (files.getLast?.map fun name => s!"{name}: ").getD ""
  let line := toString mistake.line
  if mistake.text.startsWith "unexpected character" then warn name s!"{file}{line}: {mistake.text}"
  else warn name s!"{file}line {line}: {mistake.text}"
  if mistake.text == "extra '\x7d'" then
    warn name s!"{file}line {line}: syntax error at or near end of line"
  pure 2

end Records

/-- Run a script on the records of files. -/
def awk (starter : Starter) : Program := fun launch => do
  match Records.Wish.read {} (launch.args.length + 1) launch.args with
  | .error (.complaint text) => fail launch.name text 2
  | .error .version => printing launch.name "mawk 1.3.4 20240123\n" 0
  | .error .usage => printing launch.name Records.usage 0
  | .ok wish =>
      match wish.files, wish.operands with
      | [], [] => do
          Act.complain Records.usage
          pure 0
      | [], text :: args =>
          match Records.Script.read text with
          | .error mistake => Records.refuseScript launch.name [] mistake
          | .ok script => Records.run starter launch wish script args
      | files, args => do
          match ← Records.textsOf files with
          | .error (path, fault) =>
              fail launch.name s!"cannot open \x22{path}\x22 ({fault.text})" 2
          | .ok texts =>
              match Records.Script.read (String.intercalate "\n" texts) with
              | .error mistake => Records.refuseScript launch.name files mistake
              | .ok script => Records.run starter launch wish script args

end Programs
end CameraFleet
