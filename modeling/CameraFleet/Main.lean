import CameraFleet.CommandLine.Program
import CameraFleet.Execution
import Std.Async.DNS
import Std.Async.Signal
import Std.Async.UDP

/-!
# The program on a real machine

This module joins the program to the machine: it reads the configuration
files, looks up the relay, binds a socket and then hands over everything that
happens, one step at a time. It decides nothing; what to write and what to send
is read off the program's trace.
-/

namespace CameraFleet
namespace CommandLine

open Std.Async
open Std.Net

/-- The wall clock, in milliseconds. -/
def readClock : IO Int := do
  let now ← Std.Time.Timestamp.now
  return now.toMillisecondsSinceUnixEpoch.val

/-- The text of the file at a path of the machine, if it can be read. -/
def lookAt (path : String) : IO (Except Host.Fault String) := do
  try
    return .ok (Utf8.toString (← IO.FS.readBinFile path).toList)
  catch
    | .inappropriateType .. => return .error .isDirectory
    | .permissionDenied .. => return .error .denied
    | _ => return .error .missing

/-- The surroundings of the process; every path that may matter is looked at beforehand. -/
def readSurroundings : IO Config.Surroundings := do
  let bare : Config.Surroundings :=
    { cwd := toString (← IO.currentDir)
      home := (← IO.getEnv "HOME").getD "/"
      named := ← IO.getEnv "CAMRELAY_CONFIG"
      look := fun _ => .error .missing }
  let paths := bare.named.toList ++ [bare.cwdFile, bare.homeFile]
  let seen ← paths.mapM fun path => do
    return (path, ← lookAt path)
  return { bare with look := fun path => (seen.lookup path).getD (.error .missing) }

/-- The address of a host, if the machine knows one. -/
def lookUp (host : String) : IO (Option String) := do
  try
    let found ← (DNS.getAddrInfo host "" (some .ipv4)).block
    return found[0]?.map toString
  catch _ =>
    return none

/-- An endpoint as an address of the machine. -/
def socketAddress? (endpoint : Endpoint) : Option SocketAddress :=
  (IPv4Addr.ofString endpoint.address).map fun address =>
    .v4 ⟨address, UInt16.ofNat endpoint.port.toNat⟩

/-- An address of the machine as an endpoint. -/
def endpointOf (address : SocketAddress) : Endpoint :=
  ⟨toString address.ipAddr, address.port.toNat⟩

/-- A socket of the machine, bound to a place. -/
def bindSocket (place : Endpoint) : IO UDP.Socket := do
  match socketAddress? place with
  | none => throw (IO.userError "bind EINVAL")
  | some address =>
      let socket ← UDP.Socket.mk
      socket.bind address
      return socket

/-- The machine as the program sees it, and the socket if it could be bound. -/
def readMachine
    (place : Endpoint)
    (relayHost : Option String) : IO (Udp.Machine × Option UDP.Socket) := do
  let hosts ← relayHost.toList.filterMapM fun host => do
    return (← lookUp host).map fun address => (host, address)
  try
    let socket ← bindSocket place
    let here := endpointOf (← socket.getSockName)
    return ({ hosts, nextPort := here.port.toNat }, some socket)
  catch error =>
    return ({ hosts, faults := { bind := some (toString error) } }, none)

/-- The endpoint at which the program's node listens. -/
def Program.here? (program : Program) : Option Endpoint :=
  (program.network.named? Program.node).map fun (_, station) => station.here

/-- Send a datagram; one that cannot be sent is lost. -/
def sendDatagram
    (socket : UDP.Socket)
    (target : Endpoint)
    (bytes : Wire.Bytes) : IO Unit := do
  match socketAddress? target with
  | none => return
  | some address =>
      try
        (socket.send ⟨bytes.toArray⟩ (some address)).block
      catch _ =>
        return

/-- Let the machine do what an event says. -/
def perform
    (socket : Option UDP.Socket)
    (here : Option Endpoint) : Event -> IO Unit
  | .out text => IO.println text
  | .err complaint => IO.eprintln complaint.message
  | .send source target bytes => do
      if some source == here then
        if let some socket := socket then sendDatagram socket target bytes
  | .bind .. | .close | .exit _ => return

/-- Let the machine do everything that the program has to show, and forget it. -/
def flush
    (socket : Option UDP.Socket)
    (program : Program) : IO Program := do
  for (_, event) in program.trace do
    perform socket program.here? event
  (← IO.getStdout).flush
  return program.clearTrace

/-- What the machine waits for: a line, a datagram, and two signals. -/
structure Sources where
  /-- The next line of the input. -/
  line : Task (Except IO.Error String)
  /-- The next datagram. -/
  datagram : Task (Except IO.Error (ByteArray × Option SocketAddress))
  /-- The signals that end the program, with their names. -/
  signals : List (String × Task (Except IO.Error Int))

/-- The most bytes of a datagram. -/
def datagramLimit : UInt64 := 65536

/-- Wait for the next line of the input. -/
def nextLine : IO (Task (Except IO.Error String)) := do
  let input ← IO.getStdin
  IO.asTask input.getLine

/-- Wait for the next datagram. -/
def nextDatagram (socket : UDP.Socket) :
    IO (Task (Except IO.Error (ByteArray × Option SocketAddress))) :=
  (socket.recv datagramLimit).toIO

/-- Wait for a signal. -/
def awaitSignal
    (name : String)
    (signal : Signal) : IO (String × Task (Except IO.Error Int)) := do
  let waiter ← Signal.Waiter.mk signal false
  return (name, ← waiter.wait)

/-- The step of a line: an empty one marks the end of the input. -/
def stepOfLine (line : String) : Program.Step :=
  if line.isEmpty then .inputEnd else .line line

/-- The step of a datagram that arrives at an endpoint. -/
def stepOfDatagram
    (here : Endpoint)
    (bytes : ByteArray)
    (sender : SocketAddress) : Program.Step :=
  .datagram ⟨endpointOf sender, here, bytes.toList⟩

/-- The pause between two looks at the sources, in milliseconds. -/
def pause : UInt32 := 5

/-- Hand over what has happened since the last look, until the program has ended. -/
partial def serve
    (socket : UDP.Socket)
    (here : Endpoint)
    (sources : Sources)
    (program : Program) : IO UInt32 := do
  let program ← flush socket program
  match program.status with
  | .exited code => return UInt32.ofNat code
  | .resting => return 0
  | .running =>
      let passed := (← readClock) - program.network.now
      let mut program := program
      let mut sources := sources
      if 0 < passed then
        program := program.step (.advance passed)
      if let some (name, _) ← sources.signals.findM? fun (_, task) => IO.hasFinished task then
        program := program.step (.signal name)
      if ← IO.hasFinished sources.line then
        if let .ok line := sources.line.get then
          program := program.step (stepOfLine line)
          unless line.isEmpty do
            sources := { sources with line := ← nextLine }
      if ← IO.hasFinished sources.datagram then
        if let .ok (bytes, some sender) := sources.datagram.get then
          program := program.step (stepOfDatagram here bytes sender)
        sources := { sources with datagram := ← nextDatagram socket }
      IO.sleep pause
      serve socket here sources program

/-- Run the program that has been started. -/
def runProgram
    (socket : Option UDP.Socket)
    (program : Program) : IO UInt32 := do
  match program.status, socket, program.here? with
  | .running, some socket, some here =>
      let sources : Sources :=
        { line := ← nextLine
          datagram := ← nextDatagram socket
          signals :=
            [← awaitSignal "SIGINT" .sigint, ← awaitSignal "SIGTERM" .sigterm] }
      serve socket here sources program
  | status, socket, _ =>
      let _ ← flush socket program
      match status with
      | .exited code => return UInt32.ofNat code
      | .resting | .running => return 0

/-- The machine for an invocation, as far as it can be told what the program will ask of it. -/
def machineFor
    (surroundings : Config.Surroundings)
    (args : List String) : IO (Udp.Machine × Option UDP.Socket) := do
  match CommandLine.parse args, Config.load surroundings with
  | .ok .help, _ => return ({}, none)
  | .ok invocation, .ok config => readMachine (invocation.place config) invocation.relayHost?
  | _, _ => return ({}, none)

end CommandLine
end CameraFleet

open CameraFleet in
/-- The entry of the program. -/
def main (args : List String) : IO UInt32 := do
  let surroundings ← CommandLine.readSurroundings
  let (machine, socket) ← CommandLine.machineFor surroundings args
  let world : CommandLine.World :=
    { start := ← CommandLine.readClock, machine, surroundings, run := fun limit command => Execution.run limit command }
  CommandLine.runProgram socket (CommandLine.Program.launch world args)
