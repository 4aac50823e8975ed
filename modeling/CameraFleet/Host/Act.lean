import CameraFleet.Host.Files
import CameraFleet.Host.Limit
import CameraFleet.Host.Signal

/-!
# Acts

What a process does is an act: it has come to a result, or it asks its host for
something and goes on according to the answer. An act says nothing about when
the answer comes; that is up to the host.

Acts form a monad, so that a program is written as a sequence of questions.
-/

namespace CameraFleet
namespace Host

/-- What a file is opened for. -/
inductive Purpose
  /-- To be read. -/
  | reading
  /-- To be written from its start; it is made if need be, and emptied. -/
  | writing
  /-- To be written at its end; it is made if need be. -/
  | appending
  /-- To be read and written; it is made if need be. -/
  | both
  /-- To be written; there may be no such file yet. -/
  | making
  deriving Repr, DecidableEq

/-- How a process waits for its children. -/
inductive Patience
  /-- It does not wait. -/
  | none
  /-- It waits, whatever signals come. -/
  | full
  /-- It waits until a signal comes that it catches. -/
  | untilSignal
  /-- It waits until such a signal comes, or a time. -/
  | untilTime (time : Nat)
  deriving Repr, DecidableEq

/-- What a process learns about its children. -/
inductive Awaited
  /-- A child has ended. -/
  | ended (process : Nat) (ending : Ending)
  /-- No child has ended yet. -/
  | notYet
  /-- A signal came in between. -/
  | interrupted
  /-- There is no such child. -/
  | childless
  deriving Repr, DecidableEq

/-- A change of the tree of files. -/
inductive Change
  /-- Take away a file. -/
  | remove (path : Octets)
  /-- Make a directory. -/
  | makeDirectory (path : Octets)
  /-- Take away an empty directory. -/
  | removeDirectory (path : Octets)
  /-- Give a file another path. -/
  | move (source target : Octets)
  /-- Give a file a second path. -/
  | join (source target : Octets)
  /-- Make a link to a path. -/
  | link (target path : Octets)
  /-- Say who may do what with a file. -/
  | setRights (path : Octets) (rights : Nat)
  /-- Say when a file was last changed; a link in the last place is followed if asked for. -/
  | setTime (path : Octets) (time : Int) (followLast : Bool)
  /-- Make a pipe with a name. -/
  | makeFifo (path : Octets)
  deriving Repr, DecidableEq

/-- What an open file is. -/
inductive Kind
  /-- An entry of the tree. -/
  | entry (entry : Entry)
  /-- A pipe. -/
  | pipe
  /-- A connection to whoever runs the process. -/
  | connection
  deriving Repr, DecidableEq

/-- What can be seen of a file. -/
structure Sight where
  /-- What it is. -/
  kind : Kind
  /-- Its size in bytes. -/
  size : Nat := 0
  /-- Who may do what with it. -/
  rights : Nat := 384
  /-- When it was last changed, in milliseconds. -/
  changed : Int := 0
  /-- At how many places it stands. -/
  links : Nat := 1
  /-- Its number. -/
  number : Nat := 0
  deriving Repr, DecidableEq

/-- Whether a file can be run. -/
def Sight.isRunnable (sight : Sight) : Bool :=
  sight.rights &&& 73 != 0

/-- What a process asks of its host. -/
inductive Call
  /-- Read so many bytes at most; no bytes mean that there will be no more. -/
  | read (descriptor most : Nat)
  /-- Read like this, but stop waiting when a signal comes that is caught. -/
  | readAlertly (descriptor most : Nat)
  /-- Write bytes. -/
  | write (descriptor : Nat) (bytes : ByteArray)
  /-- Go back by so many bytes, where that is possible. -/
  | goBack (descriptor count : Nat)
  /-- Open a file; the answer is its descriptor. -/
  | open (path : Octets) (purpose : Purpose)
  /-- A further descriptor for an open file, no lower than a bound. -/
  | copy (descriptor lowest : Nat)
  /-- Let a second descriptor stand for the same open file. -/
  | assign (descriptor target : Nat)
  /-- Close a descriptor. -/
  | close (descriptor : Nat)
  /-- A pipe; the answer is the descriptors of its two ends. -/
  | pipe
  /-- Go on twice; the copy gets no answer, and the first one gets the copy's number. -/
  | fork
  /-- Ask about a child, or any. -/
  | await (child : Option Nat) (patience : Patience)
  /-- Send a signal to a process. -/
  | send (process : Nat) (signal : Signal)
  /-- Send a signal to all processes of the own group. -/
  | sendGroup (signal : Signal)
  /-- Begin a group of processes, to which children will belong. -/
  | lead
  /-- Ask whether there is such a process. -/
  | probe (process : Nat)
  /-- Say what to do about a signal. -/
  | dispose (signal : Signal) (disposition : Disposition)
  /-- What is done about a signal. -/
  | disposition (signal : Signal)
  /-- The signals that have been caught since the last time. -/
  | caught
  /-- Wait until a time, or without end. -/
  | sleepUntil (time : Option Nat)
  /-- The time since the machine was started, in milliseconds. -/
  | clock
  /-- The date, in milliseconds. -/
  | date
  /-- Say which rights new files do not get, if anything; the answer is which they did not get. -/
  | mask (rights : Option Nat)
  /-- Replace the limit of a resource, if there is one; the answer is what it was. -/
  | limit (resource : Resource) (new : Option Limit)
  /-- The directory of the process. -/
  | here
  /-- Go to a directory. -/
  | enter (path : Octets)
  /-- Look at a file; a link in the last place is followed if asked for. -/
  | look (path : Octets) (followLast : Bool)
  /-- The path of a file without links. -/
  | resolve (path : Octets)
  /-- Look at an open file. -/
  | lookAt (descriptor : Nat)
  /-- The names in a directory. -/
  | names (path : Octets)
  /-- Change the tree of files. -/
  | change (change : Change)
  /-- The number of the process, and that of its parent. -/
  | identity
  /-- End with a status; there is no answer. -/
  | exit (status : Nat)

/-- The type of the answer to a call. -/
@[reducible] def Call.Answer : Call -> Type
  | .read _ _ | .readAlertly _ _ => Except Fault ByteArray
  | .write _ _ => Except Fault Unit
  | .goBack _ _ => Unit
  | .open _ _ => Except Fault Nat
  | .copy _ _ => Except Fault Nat
  | .assign _ _ => Except Fault Unit
  | .close _ => Except Fault Unit
  | .pipe => Nat × Nat
  | .fork => Option Nat
  | .await _ _ => Awaited
  | .send _ _ => Except Fault Unit
  | .sendGroup _ => Unit
  | .lead => Unit
  | .probe _ => Bool
  | .dispose _ _ => Unit
  | .disposition _ => Disposition
  | .caught => List Signal
  | .sleepUntil _ => Unit
  | .clock => Nat
  | .date => Int
  | .mask _ => Nat
  | .limit _ _ => Except Fault Limit
  | .here => Path
  | .enter _ => Except Fault Unit
  | .look _ _ => Except Fault Sight
  | .resolve _ => Except Fault Octets
  | .lookAt _ => Except Fault Sight
  | .names _ => Except Fault (List Octets)
  | .change _ => Except Fault Unit
  | .identity => Nat × Nat
  | .exit _ => Empty

/-- What a process does until it has a result. -/
inductive Act (α : Type) : Type
  /-- There is a result. -/
  | done (value : α)
  /-- The process asks for something and goes on with the answer. -/
  | ask (call : Call) (next : call.Answer -> Act α)

namespace Act

/-- One act after another. -/
def bind : Act α -> (α -> Act β) -> Act β
  | .done value, next => next value
  | .ask call answered, next => .ask call fun answer => (answered answer).bind next

instance : Monad Act where
  pure := .done
  bind := bind

/-- Ask for something; the result is the answer. -/
def call (call : Call) : Act call.Answer :=
  .ask call .done

/-- End with a status. -/
def exit (status : Nat) : Act α :=
  .ask (.exit status) fun answer => answer.elim

/-- Write a text to the output. -/
def print (text : Octets) : Act (Except Fault Unit) :=
  call (.write 1 (Octets.toBytes text))

/-- Write a text to the error output. -/
def complain (text : Octets) : Act Unit := do
  let _ ← call (.write 2 (Octets.toBytes text))

/-- Wait for so many milliseconds, or without end. -/
def sleep : Option Nat -> Act Unit
  | some milliseconds => do
      let now ← call .clock
      call (.sleepUntil (some (now + milliseconds)))
  | none => call (.sleepUntil none)

end Act
end Host
end CameraFleet
