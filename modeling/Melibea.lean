import Melibea.Abandonment
import Melibea.Acceptance
import Melibea.Acknowledgement
import Melibea.Admission
import Melibea.Agreement
import Melibea.Attention
import Melibea.Broker
import Melibea.ClientView
import Melibea.Coalescing
import Melibea.CommandLine
import Melibea.Config
import Melibea.Connection
import Melibea.Controller
import Melibea.Daemon
import Melibea.Decisions
import Melibea.Departure
import Melibea.Desktop
import Melibea.Diagnostics
import Melibea.Diff
import Melibea.Draining
import Melibea.Economy
import Melibea.Execution
import Melibea.Executor
import Melibea.Focus
import Melibea.Framing
import Melibea.Freshness
import Melibea.Generations
import Melibea.Health
import Melibea.Invocation
import Melibea.Isolation
import Melibea.Library.Binary64
import Melibea.Library.Decimal
import Melibea.Library.Encoding
import Melibea.Library.Extraction
import Melibea.Library.Interleaving
import Melibea.Library.KeyedList
import Melibea.Library.Lines
import Melibea.Library.Machine
import Melibea.Library.Mailbox
import Melibea.Library.OrderedMap
import Melibea.Library.Register
import Melibea.Library.Replication
import Melibea.Library.Rounding
import Melibea.Library.Simulation
import Melibea.Library.Validation
import Melibea.Library.Value
import Melibea.Library.Word64
import Melibea.Listening
import Melibea.Listing
import Melibea.Minimization
import Melibea.Niri
import Melibea.NiriActions
import Melibea.NiriStream
import Melibea.NiriWire
import Melibea.Ownership
import Melibea.Patch
import Melibea.Process
import Melibea.Protocol
import Melibea.Reading
import Melibea.Registry
import Melibea.Rejection
import Melibea.Replies
import Melibea.Resynchronization
import Melibea.Revisions
import Melibea.RoundTrip
import Melibea.Rules
import Melibea.ServiceClient
import Melibea.Session
import Melibea.Settling
import Melibea.Subscription
import Melibea.Targets
import Melibea.Threads
import Melibea.Tracking
import Melibea.Transition
import Melibea.Wanted
import Melibea.Watcher
