import CameraFleet.Host.Fault

/-!
# Signals

A signal has a number, a name and a wording. What it does to a process depends
on the process: by default most signals end it, some stop it and some do
nothing; a process may also ignore a signal or catch it.
-/

namespace CameraFleet
namespace Host

/-- A signal, by its number. -/
structure Signal where
  /-- The number. -/
  number : Nat
  deriving Repr, DecidableEq

/-- What a process does about a signal. -/
inductive Disposition
  /-- What is usual for the signal. -/
  | usual
  /-- Nothing. -/
  | ignored
  /-- It takes note of the signal. -/
  | caught
  deriving Repr, DecidableEq

/-- How a process has ended. -/
inductive Ending
  /-- By itself, with a status. -/
  | exited (status : Nat)
  /-- By a signal. -/
  | killed (signal : Signal)
  /-- Before it became a program. -/
  | unstarted (fault : Fault)
  deriving Repr, DecidableEq

namespace Signal

/-- The signal of a lost terminal. -/
def hangup : Signal := ⟨1⟩

/-- The signal of an interruption at the terminal. -/
def interrupt : Signal := ⟨2⟩

/-- The signal of an abort at the terminal. -/
def quit : Signal := ⟨3⟩

/-- The signal that cannot be caught. -/
def kill : Signal := ⟨9⟩

/-- The signal of a pipe that nobody reads. -/
def pipe : Signal := ⟨13⟩

/-- The signal that asks for an end. -/
def terminate : Signal := ⟨15⟩

/-- The name and the wording of each signal, from number one on. -/
def table : List (String × String) :=
  [("HUP", "Hangup"), ("INT", "Interrupt"), ("QUIT", "Quit"), ("ILL", "Illegal instruction"),
    ("TRAP", "Trace/breakpoint trap"), ("ABRT", "Aborted"), ("BUS", "Bus error"),
    ("FPE", "Floating point exception"), ("KILL", "Killed"), ("USR1", "User defined signal 1"),
    ("SEGV", "Segmentation fault"), ("USR2", "User defined signal 2"), ("PIPE", "Broken pipe"),
    ("ALRM", "Alarm clock"), ("TERM", "Terminated"), ("STKFLT", "Stack fault"),
    ("CHLD", "Child exited"), ("CONT", "Continued"), ("STOP", "Stopped (signal)"),
    ("TSTP", "Stopped"), ("TTIN", "Stopped (tty input)"), ("TTOU", "Stopped (tty output)"),
    ("URG", "Urgent I/O condition"), ("XCPU", "CPU time limit exceeded"),
    ("XFSZ", "File size limit exceeded"), ("VTALRM", "Virtual timer expired"),
    ("PROF", "Profiling timer expired"), ("WINCH", "Window changed"), ("IO", "I/O possible"),
    ("PWR", "Power failure"), ("SYS", "Bad system call")]

/-- The greatest number of a signal. -/
def greatest : Nat := 64

/-- The name of a signal, if it has one. -/
def name? (signal : Signal) : Option String :=
  if signal.number = 0 then none else (table[signal.number - 1]?).map (·.1)

/-- The wording of a signal. -/
def text (signal : Signal) : String :=
  match table[signal.number - 1]? with
  | some (_, text) => text
  | none => s!"Unknown signal {signal.number}"

/-- The signal of a name, in any case of letters. -/
def ofName? (name : String) : Option Signal :=
  (table.findIdx? fun entry => entry.1 == name.toUpper).map fun place => ⟨place + 1⟩

/-- What a signal usually does. -/
inductive Effect
  | ends
  | stops
  | nothing
  deriving Repr, DecidableEq

/-- What a signal does to a process that has made no arrangements. -/
def effect (signal : Signal) : Effect :=
  if [17, 18, 23, 28].contains signal.number then .nothing
  else if [19, 20, 21, 22].contains signal.number then .stops
  else .ends

/-- Whether a process may make arrangements for a signal. -/
def mayBeCaught (signal : Signal) : Bool :=
  signal.number != 9 && signal.number != 19

end Signal

/-- The status by which a shell knows an ending. -/
def Ending.status : Ending -> Nat
  | .exited status => status
  | .killed signal => 128 + signal.number
  | .unstarted _ => 127

end Host
end CameraFleet
