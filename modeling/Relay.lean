import Relay.Bridge.Printing
import Relay.Channel.Session
import Relay.Data.JsonWord
import Relay.Main
import Relay.Net.Listener
import Relay.Net.Session
import Relay.Parallel.FanOut
import Relay.Shutdown
import Relay.Spawn.Session
import Relay.Spawn.Settings
import Relay.Supervision.Session
import Relay.Proofs.Bridge.Draining
import Relay.Proofs.Channel.Closing
import Relay.Proofs.Channel.Fifo
import Relay.Proofs.Channel.Steps
import Relay.Proofs.Channel.Wakeups
import Relay.Proofs.Net.Addresses
import Relay.Proofs.Net.Completeness
import Relay.Proofs.Net.Delivery
import Relay.Proofs.Net.Frames
import Relay.Proofs.Net.Grammar
import Relay.Proofs.Net.Listening
import Relay.Proofs.Net.Reception
import Relay.Proofs.Net.Uplink
import Relay.Proofs.Settings.Precedence
import Relay.Proofs.Spawn.Handles
import Relay.Proofs.Spawn.Reaping
import Relay.Proofs.Spawn.Slots
import Relay.Proofs.Supervision.Acyclicity
import Relay.Proofs.Supervision.Budget
import Relay.Proofs.Supervision.Cascade
import Relay.Proofs.Supervision.Changes
import Relay.Proofs.Supervision.Completion
import Relay.Proofs.Supervision.Confinement
import Relay.Proofs.Supervision.Consistency
import Relay.Proofs.Supervision.Degradation
import Relay.Proofs.Supervision.Dependents
import Relay.Proofs.Supervision.Escalation
import Relay.Proofs.Supervision.Failures
import Relay.Proofs.Supervision.Incarnations
import Relay.Proofs.Supervision.Lifetimes
import Relay.Proofs.Supervision.Nesting
import Relay.Proofs.Supervision.Quiescence
import Relay.Proofs.Supervision.Records
import Relay.Proofs.Supervision.Recovery
import Relay.Proofs.Supervision.Reports
import Relay.Proofs.Supervision.Starting
import Relay.Proofs.Supervision.Stopping
import Relay.Proofs.Wire.Encoding
import Relay.Proofs.Wire.Framing
import Relay.Proofs.Wire.Streaming
import Relay.Proofs.Spawn.Waiting
import Relay.Proofs.Net.Opening
import Relay.Proofs.Net.Attaching
import Relay.Proofs.Net.Dispatch
import Relay.Proofs.Net.Rejection
import Relay.Proofs.Parallel.Schedules
import Relay.Proofs.Spawn.Backpressure
import Relay.Proofs.Settings.Absence
import Relay.Proofs.Supervision.Naming
import Relay.Proofs.Supervision.Roster
import Relay.Proofs.Wire.Ending
import Relay.Proofs.Text.WellFormed
import Relay.Proofs.Supervision.Waking
