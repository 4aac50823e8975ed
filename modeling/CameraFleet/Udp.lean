import CameraFleet.Endpoint
import CameraFleet.Failure
import CameraFleet.Log
import CameraFleet.Wire.Datagram

/-!
# Datagram sockets

A machine looks up hosts and binds datagram sockets. A failure on the way to a
bound socket keeps a process from starting; later failures are logged or handed
to the sender, and the socket stays. A socket may be released once and for all.
-/

namespace CameraFleet
namespace Udp

open Wire

/-- Which operations of a machine fail, and why. -/
structure Faults where
  /-- Making a socket. -/
  create : Option String := none
  /-- Binding a socket. -/
  bind : Option String := none
  /-- Sending a datagram. -/
  send : Option String := none
  deriving Repr, DecidableEq

/-- A bound socket. -/
structure Socket where
  /-- Where it is bound. -/
  here : Endpoint
  /-- Whether it has been released. -/
  closed : Bool := false
  /-- Who receives its datagrams. -/
  handler : Option String := none
  deriving Repr, DecidableEq

/-- A machine with its sockets. -/
structure Machine where
  /-- The addresses of the hosts it knows. -/
  hosts : List (String × String) := []
  /-- Which operations fail. -/
  faults : Faults := {}
  /-- The next port for a socket that asks for none. -/
  nextPort : Nat := 40000
  /-- The sockets, newest first. -/
  sockets : List Socket := []
  deriving Repr, DecidableEq

/-- What can be observed of a machine. -/
inductive Event
  /-- A socket is to be bound. -/
  | bind (host : String) (port : Int)
  /-- A socket is released. -/
  | close
  /-- A datagram is sent or arrives. -/
  | send (source target : Endpoint) (bytes : Bytes)
  /-- A handler receives a datagram. -/
  | receive (handler : String) (bytes : Bytes) (source : Endpoint)
  /-- The log is told. -/
  | log (line : Log.Line)
  deriving Repr, DecidableEq

/-- Why a datagram cannot be sent through a socket that has been released. -/
def notRunning : String := "Not running"

/-- Whether a text is an address in four decimal parts. -/
def isDottedQuad (host : String) : Bool :=
  let parts := host.splitOn "."
  parts.length == 4 && parts.all fun part =>
    !part.isEmpty && part.length ≤ 3 && part.toList.all Char.isDigit &&
      (part.toNat?.getD 256) < 256

namespace Machine

/-- Look up a host; an address stands for itself. -/
def resolve
    (machine : Machine)
    (host : String)
    (port : Int) : Except StartupError Endpoint :=
  if isDottedQuad host then .ok ⟨host, port⟩
  else
    match machine.hosts.lookup host with
    | some address => .ok ⟨address, port⟩
    | none => .error (.ofLookup host ("getaddrinfo ENOTFOUND " ++ host))

/-- The line about a socket that has been bound. -/
def boundLine (here : Endpoint) : Log.Line :=
  ⟨.debug, s!"[relay:udp] bound {here}"⟩

/-- Make and bind a socket; port zero stands for the next free one. -/
def bind
    (machine : Machine)
    (host : String)
    (port : Int) : Machine × List Event × Except StartupError Endpoint :=
  match machine.faults.create, machine.faults.bind with
  | some cause, _ => (machine, [], .error (.ofSocket cause))
  | none, some cause => (machine, [.bind host port, .close], .error (.ofBind host port cause))
  | none, none =>
      let here : Endpoint := ⟨host, if port = 0 then machine.nextPort else port⟩
      let nextPort := if port = 0 then machine.nextPort + 1 else machine.nextPort
      ({ machine with nextPort, sockets := { here } :: machine.sockets },
        [.bind host port, .log (boundLine here)], .ok here)

/-- Change the newest socket. -/
def modifyNewest
    (machine : Machine)
    (change : Socket -> Socket) : Machine :=
  match machine.sockets with
  | [] => machine
  | newest :: older => { machine with sockets := change newest :: older }

/-- Give the newest socket a handler. -/
def handle (machine : Machine) (handler : String) : Machine :=
  machine.modifyNewest ({ · with handler := some handler })

/-- A datagram reaches its destination: the newest socket there takes it. -/
def arrive
    (machine : Machine)
    (source target : Endpoint)
    (bytes : Bytes) : List Event :=
  let received :=
    match machine.sockets.find? (·.here == target) with
    | some socket =>
        if socket.closed then []
        else (socket.handler.map fun handler => Event.receive handler bytes source).toList
    | none => []
  .send source target bytes :: received

/-- Send a datagram through the newest socket. -/
def send
    (machine : Machine)
    (target : Endpoint)
    (bytes : Bytes) : Except String (List Event) :=
  match machine.sockets with
  | [] => .error notRunning
  | socket :: _ =>
      if socket.closed then .error notRunning
      else
        match machine.faults.send with
        | some reason => .error reason
        | none => .ok (machine.arrive socket.here target bytes)

/-- A datagram arrives at the newest socket. -/
def receive
    (machine : Machine)
    (source : Endpoint)
    (bytes : Bytes) : List Event :=
  match machine.sockets with
  | [] => []
  | socket :: _ => machine.arrive source socket.here bytes

/-- The newest socket reports an error. -/
def socketError
    (machine : Machine)
    (message : String) : List Event :=
  match machine.sockets with
  | [] => []
  | socket :: _ => [.log ⟨.error, s!"[relay:udp] socket error on {socket.here}: {message}"⟩]

/-- Release the newest socket. -/
def close (machine : Machine) : Machine × List Event :=
  match machine.sockets with
  | [] => (machine, [])
  | socket :: _ =>
      (machine.modifyNewest ({ · with closed := true }), if socket.closed then [] else [.close])

end Machine
end Udp
end CameraFleet
