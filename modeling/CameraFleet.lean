import CameraFleet.CommandLine.Program
import CameraFleet.Config.Written
import CameraFleet.Digest.Blake2
import CameraFleet.Digest.Older
import CameraFleet.Digest.Sha2
import CameraFleet.Host.Act
import CameraFleet.Host.Fault
import CameraFleet.Host.Files
import CameraFleet.Host.Machine
import CameraFleet.Host.Standard
import CameraFleet.Main
import CameraFleet.Number.Quantity
import CameraFleet.Programs.Basic
import CameraFleet.Programs.Condition
import CameraFleet.Programs.Copy
import CameraFleet.Programs.Count
import CameraFleet.Programs.Directive
import CameraFleet.Programs.Escape
import CameraFleet.Programs.Fields
import CameraFleet.Programs.Format
import CameraFleet.Programs.Print
import CameraFleet.Programs.Sequence
import CameraFleet.Programs.Start
import CameraFleet.Programs.Translate
import CameraFleet.Proofs.Broadcasts
import CameraFleet.Proofs.Calendar
import CameraFleet.Proofs.Config.Numbers
import CameraFleet.Proofs.Config.Resolution
import CameraFleet.Proofs.Coordinator.Closing
import CameraFleet.Proofs.Coordinator.Sending
import CameraFleet.Proofs.Coordinator.Silence
import CameraFleet.Proofs.Coordinator.Steps
import CameraFleet.Proofs.Coordinator.Timer
import CameraFleet.Proofs.Execution
import CameraFleet.Proofs.Fleet.Collection
import CameraFleet.Proofs.Membership
import CameraFleet.Proofs.Network.Cascades
import CameraFleet.Proofs.Network.Growth
import CameraFleet.Proofs.Network.Work
import CameraFleet.Proofs.Relay.Accounts
import CameraFleet.Proofs.Relay.Apart
import CameraFleet.Proofs.Relay.Broadcast
import CameraFleet.Proofs.Relay.History
import CameraFleet.Proofs.Relay.Independence
import CameraFleet.Proofs.Relay.Ledger
import CameraFleet.Proofs.Relay.Records
import CameraFleet.Proofs.Relay.Routing
import CameraFleet.Proofs.Relay.Run
import CameraFleet.Proofs.Relay.Seen
import CameraFleet.Proofs.Sweep
import CameraFleet.Proofs.Tally.Counting
import CameraFleet.Proofs.Tally.Expiry
import CameraFleet.Proofs.Verdict
import CameraFleet.Proofs.Watch
import CameraFleet.Proofs.Wire.Asking
import CameraFleet.Proofs.Wire.Hops
import CameraFleet.Proofs.Wire.Reading
import CameraFleet.Proofs.Wire.Transit
import CameraFleet.Proofs.Wire.Truncation
import CameraFleet.Proofs.Wire.Verdicts
import CameraFleet.Proofs.Worker.Beating
import CameraFleet.Proofs.Worker.Jobs
import CameraFleet.Proofs.Worker.Leaving
import CameraFleet.Proofs.Worker.Naming
import CameraFleet.Proofs.Worker.Registering
import CameraFleet.Proofs.Worker.Run
import CameraFleet.Shell.Arithmetic
import CameraFleet.Shell.Commands
import CameraFleet.Shell.Condition
import CameraFleet.Shell.Expansion
import CameraFleet.Shell.Interpreter
import CameraFleet.Shell.Jobs
import CameraFleet.Shell.Lookup
import CameraFleet.Shell.Pattern
import CameraFleet.Shell.Reader
import CameraFleet.Shell.Rewiring
import CameraFleet.Shell.Session
import CameraFleet.Shell.State
import CameraFleet.Text.Literal
import CameraFleet.Text.Regex.Reader
import CameraFleet.Timer
