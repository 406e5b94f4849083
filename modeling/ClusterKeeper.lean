import ClusterKeeper.Numeral
import ClusterKeeper.History
import ClusterKeeper.Ordered.Set
import ClusterKeeper.Ordered.Map
import ClusterKeeper.Identifier
import ClusterKeeper.Member
import ClusterKeeper.Status
import ClusterKeeper.StatusCell
import ClusterKeeper.Duration
import ClusterKeeper.Text.Character
import ClusterKeeper.Duration.Unit
import ClusterKeeper.Duration.Readable
import ClusterKeeper.Clock
import ClusterKeeper.Wait
import ClusterKeeper.Decimal.Binary64
import ClusterKeeper.Decimal.Shortest
import ClusterKeeper.Json.Value
import ClusterKeeper.Json.Printer
import ClusterKeeper.Json.Reader
import ClusterKeeper.Json.Decode
import ClusterKeeper.Member.Json
import ClusterKeeper.Status.Json
import ClusterKeeper.Event
import ClusterKeeper.Event.Json
import ClusterKeeper.Settings
import ClusterKeeper.Toml.Value
import ClusterKeeper.Toml.Text
import ClusterKeeper.Toml.Number
import ClusterKeeper.Toml.Document
import ClusterKeeper.Settings.Toml
import ClusterKeeper.Program
import ClusterKeeper.Log
import ClusterKeeper.Failure
import ClusterKeeper.Substrate
import ClusterKeeper.TaskIndex
import ClusterKeeper.TaskRunner
import ClusterKeeper.Store.Memory
import ClusterKeeper.Store.FileSystem
import ClusterKeeper.Store.File
import ClusterKeeper.Request
import ClusterKeeper.Handler.Tracing
import ClusterKeeper.Handler.Resumption
import ClusterKeeper.Handler.Departure
import ClusterKeeper.Handler.Transition
import ClusterKeeper.Handler.Membership
import ClusterKeeper.Store
import ClusterKeeper.Cluster.Fault
import ClusterKeeper.Cluster.Lock
import ClusterKeeper.Cluster.State
import ClusterKeeper.Cluster.Answer
import ClusterKeeper.Cluster.Schedule
import ClusterKeeper.Cluster.Call
import ClusterKeeper.Text.Utf8
import ClusterKeeper.Proofs.Answer
import ClusterKeeper.Proofs.Interleaving
import ClusterKeeper.Proofs.Locking
import ClusterKeeper.Proofs.Resumption.Conduct
import ClusterKeeper.Proofs.Resumption.AtMostOnce
import ClusterKeeper.Proofs.Resumption.ExactlyOnce
import ClusterKeeper.Proofs.Run
import ClusterKeeper.Proofs.Hosts.Convergence
import ClusterKeeper.Proofs.Status.Conduct
import ClusterKeeper.Proofs.Status.Steering
import ClusterKeeper.Proofs.Status.Linearization
import ClusterKeeper.Proofs.Status.Adoption
import ClusterKeeper.Proofs.Status.Agreement
import ClusterKeeper.Proofs.Scheduling
import ClusterKeeper.Proofs.Course
import ClusterKeeper.Proofs.Tracing
import ClusterKeeper.Proofs.Status.Handling
import ClusterKeeper.Proofs.Status.Outages
import ClusterKeeper.Proofs.Ledger
import ClusterKeeper.Proofs.Resumption.Unrecorded
import ClusterKeeper.Proofs.Hosts.Overlap
import ClusterKeeper.Proofs.Separation
import ClusterKeeper.Proofs.Status.Echo
import ClusterKeeper.Proofs.Resumption.Confluence
import ClusterKeeper.Proofs.Json.RoundTrip
import ClusterKeeper.Proofs.Store.Text
import ClusterKeeper.Proofs.Store.Calls
import ClusterKeeper.Proofs.Store.Paths
import ClusterKeeper.Proofs.Store.Sharing
import ClusterKeeper.Proofs.Store.Site
import ClusterKeeper.Proofs.Store.Writers
import ClusterKeeper.Proofs.Store.Walks
import ClusterKeeper.Proofs.Store.Tree
import ClusterKeeper.Proofs.Store.Alone
import ClusterKeeper.Proofs.Store.Interruption
import ClusterKeeper.Proofs.Store.Refinement
import ClusterKeeper.Proofs.Json.Values
import ClusterKeeper.Proofs.Duration.RoundTrip
import ClusterKeeper.Proofs.Event.RoundTrip
import ClusterKeeper.Proofs.Departure.Host
import ClusterKeeper.Proofs.Departure.Tasks
import ClusterKeeper.Proofs.Departure.Outcome
import ClusterKeeper.Proofs.Waiting
import ClusterKeeper.Proofs.Status.Draining
import ClusterKeeper.Proofs.Hosts.Merging
import ClusterKeeper.Proofs.Settings.Reading
import ClusterKeeper.Proofs.Environment
import ClusterKeeper.Proofs.Messages
import ClusterKeeper.Proofs.Transparency
import ClusterKeeper.Proofs.Departure.Records
import ClusterKeeper.Proofs.Settings.Acceptance
import ClusterKeeper.Proofs.Status.Watching
import ClusterKeeper.Proofs.Toml.Entries
import ClusterKeeper.Proofs.Duration.Words
import ClusterKeeper.Proofs.Settings.Budget
