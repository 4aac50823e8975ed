import CameraFleet.CommandLine.Arguments
import CameraFleet.Config.Load
import CameraFleet.Network
import CameraFleet.Udp

/-!
# The program

The program reads its arguments and its configuration, binds its socket and
runs one node: a relay, a worker or a controller. A signal stops it, and so
does the end of a controller's input. A failure while it starts ends it with
code 1.

The node runs in a network of its own; what can be observed there is written to
the console.
-/

namespace CameraFleet
namespace CommandLine

open Wire

/-- What is written about a failure. -/
inductive Complaint
  /-- A text. -/
  | text (message : String)
  /-- The configuration could not be loaded. -/
  | load (error : Config.LoadError)
  /-- A failure that nobody took care of. -/
  | uncaught (message : String)
  deriving Repr, DecidableEq

/-- The wording of a complaint. -/
def Complaint.message : Complaint -> String
  | .text message => message
  | .load error => error.message
  | .uncaught message => "Error: " ++ message

/-- The address on which workers and controllers listen. -/
def anyAddress : String := "0.0.0.0"

namespace Invocation

/-- Where the node of an invocation listens; port zero stands for any free one. -/
def place (config : Config) : Invocation -> Endpoint
  | .relay port => ⟨config.host, port.getD config.port⟩
  | .worker .. | .controller .. | .help => ⟨anyAddress, 0⟩

/-- The host of the relay that the node of an invocation talks to. -/
def relayHost? : Invocation -> Option String
  | .worker _ host _ | .controller host _ => some host
  | .relay _ | .help => none

end Invocation

/-- What can be observed of the program. -/
inductive Event
  /-- A text on the console. -/
  | out (text : String)
  /-- A complaint on the console. -/
  | err (complaint : Complaint)
  /-- A socket is to be bound. -/
  | bind (host : String) (port : Int)
  /-- The socket is released. -/
  | close
  /-- A datagram is sent or arrives. -/
  | send (source target : Endpoint) (bytes : Bytes)
  /-- The program ends with a code. -/
  | exit (code : Nat)

/-- What the program finds when it starts. -/
structure World where
  /-- The clock. -/
  start : Int
  /-- The machine. -/
  machine : Udp.Machine
  /-- The files and the environment. -/
  surroundings : Config.Surroundings
  /-- Runs the commands of a worker, for so many milliseconds at most. -/
  run : Nat -> Command -> Worker.RunResult

/-- How the program is doing. -/
inductive Status
  /-- Its node runs. -/
  | running
  /-- It has nothing to do, but has not been ended. -/
  | resting
  /-- It has ended with a code. -/
  | exited (code : Nat)
  deriving Repr, DecidableEq

/-- The program while it runs. -/
structure Program where
  /-- The network of its node. -/
  network : Network
  /-- What the node is for. -/
  role : Log.Role := .relay
  /-- How log lines are written. -/
  style : Log.Style := {}
  /-- How it is doing. -/
  status : Status := .running
  /-- What has been observed, with its time. -/
  trace : Array (Int × Event) := #[]

namespace Program

/-- Observe something now. -/
def observe (program : Program) (event : Event) : Program :=
  { program with trace := program.trace.push (program.network.now, event) }

/-- End the program with a code. -/
def exit (program : Program) (code : Nat) : Program :=
  { program.observe (.exit code) with status := .exited code }

/-- Whether the program has ended. -/
def hasEnded (program : Program) : Bool :=
  match program.status with
  | .exited _ => true
  | .running | .resting => false

/-- Go on, unless the program has ended. -/
def andThen
    (program : Program)
    (next : Program -> Program) : Program :=
  if program.hasEnded then program else next program

/-- End the program at a time because of a failure that nobody took care of. -/
def crash
    (program : Program)
    (now : Int)
    (message : String) : Program :=
  let trace := (program.trace.push (now, .err (.uncaught message))).push (now, .exit 1)
  { program with trace, status := .exited 1 }

/-- The remark on a request that was sent. -/
def sentRemark (now : Int) : String :=
  s!"[{Calendar.localTime (some now)}] Request sent. Waiting for responses..."

/-- What the console shows of an event of the network, or the failure that it leads to. -/
def translate
    (style : Log.Style)
    (now : Int) : Network.Event -> Except String (List Event)
  | .send datagram _ => .ok [.send datagram.source datagram.target datagram.bytes]
  | .log _ line => (style.render now line).map fun text => (text.map Event.out).toList
  | .display _ shown => .ok [.out shown.text]
  | .released _ => .ok [.close]
  | .settled _ (.started (.error reason)) => .error reason
  | .settled _ (.request true) => .ok [.out (sentRemark now)]
  | .settled _ _ | .run _ _ | .snapshot _ _ _ | .failed _ => .ok []

/-- Show an event of the network; a failure ends the program. -/
def present
    (program : Program)
    (now : Int)
    (event : Network.Event) : Program :=
  program.andThen fun program =>
    match translate program.style now event with
    | .ok events =>
        let shown := events.map fun event => (now, event)
        { program with trace := program.trace ++ shown.toArray }
    | .error message => program.crash now message

/-- Write a log line, if the configuration wants it. -/
def writeLine (program : Program) (line : Log.Line) : Program :=
  program.present program.network.now (.log "" line)

/-- Write to the console what has been observed in the network. -/
def drain (program : Program) : Program :=
  let quiet := { program with network := program.network.clearTrace }
  program.network.trace.foldl (fun program (now, event) => program.present now event) quiet

/-- The name of the program's node. -/
def node : String := "node"

/-- Let something happen in the network. -/
def act
    (program : Program)
    (change : Network -> Network) : Program :=
  { program with network := change program.network }.drain

/-- Stop the node. -/
def stopNode (program : Program) : Program :=
  match program.role with
  | .relay | .worker => program.act (·.stop node)
  | .controller => program.act (·.close node)

/-- Stop the node and end the program. -/
def shutDown (program : Program) : Program :=
  program.stopNode.exit 0

/-- Write a list of texts. -/
def print (program : Program) (texts : List String) : Program :=
  texts.foldl (fun program text => program.observe (.out text)) program

/-- What a controller says about its state. -/
def statusTexts (controller : Controller) : List String :=
  let relay := s!"Relay server: {controller.relay}"
  match controller.lastRequest with
  | none => [relay]
  | some (kind, sentAt) =>
      let noun := if controller.replies = 1 then "reply" else "replies"
      [relay,
        s!"Last request: {kind.name} at {Calendar.localTime (some sentAt)}, " ++
          s!"{controller.replies} {noun} so far"]

/-- The controller of the program, if that is its node. -/
def controller? (program : Program) : Option Controller :=
  match program.network.named? node with
  | some (_, { party := .controller controller, .. }) => some controller
  | _ => none

/-- Take a line typed at a controller. -/
def typed (program : Program) (line : String) : Program :=
  match program.controller? with
  | none => program
  | some controller =>
      match Input.parse line with
      | .broadcast kind => program.act (·.request node kind)
      | .status => program.print (statusTexts controller)
      | .help => program.print [controllerHelp]
      | .quit => program.shutDown
      | .unknown input => program.print ["Unknown command: " ++ input, controllerHelp]
      | .none => program

/-- Something that happens to the program. -/
inductive Step
  /-- A line is typed. -/
  | line (text : String)
  /-- The input ends. -/
  | inputEnd
  /-- A signal comes. -/
  | signal (name : String)
  /-- Time passes, in milliseconds. -/
  | advance (ms : Int)
  /-- A datagram comes from outside. -/
  | datagram (datagram : Network.Datagram)

/-- Take a step; a program that has ended, or rests, takes none. -/
def step (program : Program) (step : Step) : Program :=
  match program.status with
  | .exited _ | .resting => program
  | .running =>
      match step with
      | .line text => program.typed text
      | .inputEnd => if program.role = .controller then program.shutDown else program
      | .signal name =>
          (program.writeLine ⟨.info, s!"Received {name}, shutting down..."⟩).andThen (·.shutDown)
      | .advance ms => program.act (·.advance ms)
      | .datagram datagram => program.act (·.inject datagram)

/-- A program about to start. -/
def new (world : World) : Program :=
  { network := { now := world.start } }

/-- Complain and end with code 1. -/
def fail (program : Program) (complaint : Complaint) : Program :=
  (program.observe (.err complaint)).exit 1

/-- End because a startup step failed. -/
def failStartup (program : Program) (error : StartupError) : Program :=
  program.fail (.text s!"Startup failed ({error.stage.name}): {error.message}")

/-- Bind the socket of the node, then go on. -/
def bind
    (program : Program)
    (world : World)
    (place : Endpoint)
    (go : Program -> Endpoint -> Program) : Program :=
  let (_, events, result) := world.machine.bind place.address place.port
  let program := events.foldl (fun program event =>
    match event with
    | .bind host port => program.observe (.bind host port)
    | .close => program.observe .close
    | .log line => program.writeLine line
    | .send .. | .receive .. => program) program
  match result with
  | .error error => program.failStartup error
  | .ok here =>
      let blocked := (world.machine.faults.send.map fun reason => (here, reason)).toList
      let ready := { program with network := { program.network with blocked } }
      ready.andThen (go · here)

/-- Run a relay. -/
def launchRelay
    (program : Program)
    (world : World)
    (config : Config)
    (place : Endpoint) : Program :=
  let program :=
    { program with role := .relay, style := { role := some .relay, level := config.logLevel } }
  program.bind world place fun program here =>
    program.act fun net => (net.addRelay node here config).start node

/-- Run a worker. -/
def launchWorker
    (program : Program)
    (world : World)
    (config : Config)
    (place : Endpoint)
    (deviceId host : String)
    (port : Option Nat) : Program :=
  let style : Log.Style :=
    { role := some .worker, deviceId := some deviceId, level := config.logLevel }
  let program := { program with role := .worker, style }
  match world.machine.resolve host (port.getD config.port) with
  | .error error => program.failStartup error
  | .ok relay =>
      let greeted := program.writeLine ⟨.info, s!"Relay server: {relay}"⟩
      greeted.andThen fun program =>
        program.bind world place fun program here =>
          let runner := Runner.live (world.run config.collaborators.runLimit)
          program.act fun net =>
            (net.addWorker node here deviceId relay config runner).start node

/-- Run a controller. -/
def launchController
    (program : Program)
    (world : World)
    (config : Config)
    (place : Endpoint)
    (host : String)
    (port : Option Nat) : Program :=
  let style : Log.Style := { role := some .controller, level := config.logLevel }
  let program := { program with role := .controller, style }
  match world.machine.resolve host (port.getD config.port) with
  | .error error => program.failStartup error
  | .ok relay =>
      program.bind world place fun program here =>
        let controller : Controller := { relay, maxMessageBytes := config.maxMessageBytes }
        (program.act fun net => net.addController node here controller).print
          [s!"Relay server: {relay}", controllerHelp]

/-- Run what the arguments ask for, once the configuration is loaded. -/
def launchWith
    (program : Program)
    (world : World)
    (config : Config)
    (invocation : Invocation) : Program :=
  let place := invocation.place config
  match invocation with
  | .relay _ => program.launchRelay world config place
  | .worker deviceId host port => program.launchWorker world config place deviceId host port
  | .controller host port => program.launchController world config place host port
  | .help => { program.print [usage] with status := .resting }

/-- Start the program. -/
def launch (world : World) (args : List String) : Program :=
  let program := new world
  match CommandLine.parse args with
  | .error error =>
      (program.observe (.err (.text error.message))).fail (.text usage)
  | .ok .help => { program.print [usage] with status := .resting }
  | .ok invocation =>
      match Config.load world.surroundings with
      | .error error => program.fail (.load error)
      | .ok config => program.launchWith world config invocation

/-- Forget what has been observed. -/
def clearTrace (program : Program) : Program :=
  { program with trace := #[] }

end Program
end CommandLine
end CameraFleet
