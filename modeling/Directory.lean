import Directory.Action
import Directory.Binary64.Basic
import Directory.Binary64.Reader
import Directory.Binary64.Shortest
import Directory.Call.Basic
import Directory.Call.Clause
import Directory.Call.Connection
import Directory.Call.Query
import Directory.Call.Transport
import Directory.Classifier
import Directory.Configuration
import Directory.Connection.Basic
import Directory.Connection.Connect
import Directory.Connection.Run
import Directory.Delivery
import Directory.Dispatcher
import Directory.Event
import Directory.Failure.Basic
import Directory.Failure.Detail
import Directory.Failure.Kind
import Directory.Filter.Basic
import Directory.Filter.Combination
import Directory.Filter.Operator
import Directory.FilterText.Assembly
import Directory.FilterText.Groups
import Directory.FilterText.Malformed
import Directory.FilterText.Node
import Directory.FilterText.Parser
import Directory.FilterText.Part
import Directory.Guard
import Directory.Numeral
import Directory.Paging
import Directory.Pool
import Directory.Query.Builder
import Directory.Query.Escape
import Directory.Query.Execution
import Directory.Query.Fragments
import Directory.Response
import Directory.Text.Blank
import Directory.Text.DecimalDigit
import Directory.Text.Printable
import Directory.Text.Quoted
import Directory.Transport.Basic
import Directory.Transport.Direct
import Directory.Transport.Operations
import Directory.Transport.Wire
import Directory.Validator
import Directory.Value.Access
import Directory.Value.Basic
import Directory.Value.Equality
import Directory.Value.Text
import Directory.World
import Directory.Proofs.FilterText.Balance
import Directory.Proofs.FilterText.Row
import Directory.Proofs.FilterText.Condition
import Directory.Proofs.FilterText.Grammar
import Directory.Proofs.FilterText.Canonical
import Directory.Proofs.FilterText.Rendering
import Directory.Proofs.Action
import Directory.Proofs.Connection.Frame
import Directory.Proofs.Connection.Hosts
import Directory.Proofs.Connection.Schedule
import Directory.Proofs.Connection.Run
import Directory.Proofs.Effect
import Directory.Proofs.Triple
import Directory.Proofs.Legible
import Directory.Proofs.Delivery
import Directory.Proofs.Transport.Call
import Directory.Proofs.Transport.Tls
import Directory.Proofs.Guard.Operations
import Directory.Proofs.Connection.Session
import Directory.Proofs.Guard.Tls
import Directory.Proofs.Guard.Identity
import Directory.Proofs.Orderly
import Directory.Proofs.Transport.Orderly
import Directory.Proofs.Guard.Orderly
import Directory.Proofs.Connection.Orderly
import Directory.Proofs.Connection.Failover
import Directory.Proofs.Connection.Identity
import Directory.Proofs.FilterText.Sealed
import Directory.Proofs.Query.Program
import Directory.Proofs.Query.Collecting
import Directory.Proofs.Query.Meaning
import Directory.Proofs.Query.Escape
import Directory.Proofs.Query.Skeleton
import Directory.Proofs.Query.Readable
import Directory.Proofs.Footprint
import Directory.Proofs.Connection.Recovery
import Directory.Proofs.Paging
import Directory.Proofs.Query.Chunk
import Directory.Proofs.Query.Fragments
import Directory.Proofs.Query.Alternatives
import Directory.Proofs.Transport.Opening
import Directory.Proofs.Connection.Coverage
import Directory.Proofs.Connection.Agreement
import Directory.Proofs.Connection.HostsInUse
import Directory.Proofs.Connection.Straying
import Directory.Proofs.Query.Paginate
import Directory.Proofs.Transport.Details
import Directory.Proofs.Transport.Served
import Directory.Proofs.Guard.Trace
import Directory.Proofs.Guard.Veil
import Directory.Proofs.Connection.Veil
import Directory.Proofs.FilterText.Conversion
import Directory.Proofs.Guard.Rejection
import Directory.Proofs.Binary64
import Directory.Proofs.Value.Key
import Directory.Proofs.Value.Fault
import Directory.Proofs.Pool.Registry
import Directory.Proofs.Connection.Handle
import Directory.Proofs.FilterText.Hidden
import Directory.Proofs.Query.Rename
import Directory.Proofs.Transport.Endings
import Directory.Proofs.Transport.Status
import Directory.Proofs.Transport.Reports
import Directory.Proofs.Connection.Reports
import Directory.Proofs.Configuration
import Directory.Proofs.Dispatcher.Registration
import Directory.Proofs.Dispatcher.Requests
import Directory.Proofs.Dispatcher.Calls
import Directory.Proofs.Dispatcher.Order
import Directory.Proofs.Dispatcher.Snapshot
import Directory.Proofs.Transport.Setup
import Directory.Proofs.Connection.Setup
import Directory.Proofs.Configuration.Stored
import Directory.Proofs.Classifier.Precedence
import Directory.Proofs.Classifier.Classification
import Directory.Proofs.Query.Additions
import Directory.Proofs.FilterText.Parentheses
import Directory.Proofs.Query.Unescape
import Directory.Proofs.Query.Untouched
import Directory.Proofs.Dispatcher.LeftAlone
import Directory.Proofs.Pool.Logger
import Directory.Proofs.Filter.Expression
