import SolarTelemetry.Action
import SolarTelemetry.Address
import SolarTelemetry.Application
import SolarTelemetry.Archive
import SolarTelemetry.Archive.Kind
import SolarTelemetry.Bytes
import SolarTelemetry.Calendar
import SolarTelemetry.Channel
import SolarTelemetry.Channel.Script
import SolarTelemetry.Config.Basic
import SolarTelemetry.Config.Document
import SolarTelemetry.Datalog
import SolarTelemetry.Decimal
import SolarTelemetry.Endpoint
import SolarTelemetry.Error
import SolarTelemetry.Files
import SolarTelemetry.Frame.Checksum
import SolarTelemetry.Frame.Format
import SolarTelemetry.Frame.Stream
import SolarTelemetry.Frame.Stuffing
import SolarTelemetry.Json
import SolarTelemetry.Link
import SolarTelemetry.Link.Basic
import SolarTelemetry.Link.Handling
import SolarTelemetry.Link.Phase
import SolarTelemetry.Link.Reassembly
import SolarTelemetry.Link.Senders
import SolarTelemetry.Link.Tasks
import SolarTelemetry.Link.Waiting
import SolarTelemetry.Main
import SolarTelemetry.Message.Header
import SolarTelemetry.Message.Password
import SolarTelemetry.Message.Reply
import SolarTelemetry.Message.Request
import SolarTelemetry.Numbering
import SolarTelemetry.Options
import SolarTelemetry.Packet
import SolarTelemetry.Pipe
import SolarTelemetry.Poller
import SolarTelemetry.Proofs.Attempts
import SolarTelemetry.Proofs.Closing
import SolarTelemetry.Proofs.Frame.Residue
import SolarTelemetry.Proofs.Frame.Runs
import SolarTelemetry.Proofs.Frame.Stream
import SolarTelemetry.Proofs.Frame.Synchronisation
import SolarTelemetry.Proofs.Frame.Transfer
import SolarTelemetry.Proofs.Link.Completion
import SolarTelemetry.Proofs.Link.Data
import SolarTelemetry.Proofs.Link.Exclusion
import SolarTelemetry.Proofs.Link.Failing
import SolarTelemetry.Proofs.Link.Handshake
import SolarTelemetry.Proofs.Link.Indexing
import SolarTelemetry.Proofs.Link.Intake
import SolarTelemetry.Proofs.Link.LifeCycle
import SolarTelemetry.Proofs.Link.Output
import SolarTelemetry.Proofs.Link.Reading
import SolarTelemetry.Proofs.Link.Reassembly
import SolarTelemetry.Proofs.Link.Reconnecting
import SolarTelemetry.Proofs.Link.Scheduling
import SolarTelemetry.Proofs.Link.Sending
import SolarTelemetry.Proofs.Link.Surviving
import SolarTelemetry.Proofs.Link.Time
import SolarTelemetry.Proofs.Link.Upcoming
import SolarTelemetry.Proofs.Message.Header
import SolarTelemetry.Proofs.Message.Password
import SolarTelemetry.Proofs.Packet.Stream
import SolarTelemetry.Proofs.Polling
import SolarTelemetry.Proofs.Running
import SolarTelemetry.Proofs.Session.Archives
import SolarTelemetry.Proofs.Session.Authentication
import SolarTelemetry.Proofs.Session.Closing
import SolarTelemetry.Proofs.Session.Logon
import SolarTelemetry.Proofs.Session.Marks
import SolarTelemetry.Proofs.Session.Operations
import SolarTelemetry.Proofs.Session.Output
import SolarTelemetry.Proofs.Session.Paging
import SolarTelemetry.Proofs.Session.Receiving
import SolarTelemetry.Proofs.Session.Settings
import SolarTelemetry.Proofs.Session.Trace
import SolarTelemetry.Proofs.Session.Transactions
import SolarTelemetry.Reading.Info
import SolarTelemetry.Reading.Power
import SolarTelemetry.Reading.Query
import SolarTelemetry.Reading.Statistics
import SolarTelemetry.Reading.Status
import SolarTelemetry.Record
import SolarTelemetry.Retry
import SolarTelemetry.Session
import SolarTelemetry.Session.Archives
import SolarTelemetry.Session.Basic
import SolarTelemetry.Session.Clocks
import SolarTelemetry.Session.Discovery
import SolarTelemetry.Session.Logon
import SolarTelemetry.Session.Readings
import SolarTelemetry.Text.Blank
import SolarTelemetry.Text.Number
import SolarTelemetry.Text.Utf8
import SolarTelemetry.Transport
import SolarTelemetry.Yaml.Character
import SolarTelemetry.Yaml.Node
import SolarTelemetry.Yaml.Token
import SolarTelemetry.Yaml.Token.Lexer
import SolarTelemetry.Proofs.Packet.Chunks
import SolarTelemetry.Proofs.Frame.Corruption
import SolarTelemetry.Proofs.Session.Collecting
import SolarTelemetry.Proofs.Polling.Window
import SolarTelemetry.Proofs.Frame.Canonical
import SolarTelemetry.Proofs.Session.Asking
import SolarTelemetry.Proofs.Session.Querying
import SolarTelemetry.Proofs.Session.Discovering
import SolarTelemetry.Proofs.Link.Signal
import SolarTelemetry.Proofs.Frame.Replacement
import SolarTelemetry.Proofs.Retrying
import SolarTelemetry.Proofs.Frame.Completing
import SolarTelemetry.Proofs.Frame.Attribution
import SolarTelemetry.Proofs.Channel.Punctuality
import SolarTelemetry.Proofs.Frame.Deadline
import SolarTelemetry.Proofs.Link.Punctuality
import SolarTelemetry.Proofs.Session.Deadline
import SolarTelemetry.Proofs.Reader
import SolarTelemetry.Proofs.Record.Layout
import SolarTelemetry.Proofs.Record.Segmentation
import SolarTelemetry.Proofs.Reading.Values
import SolarTelemetry.Proofs.Reading.Fields
import SolarTelemetry.Proofs.Archive.Pages
import SolarTelemetry.Proofs.Archive.Yields
import SolarTelemetry.Proofs.Message.RoundTrip
import SolarTelemetry.Proofs.Config.Address
import SolarTelemetry.Proofs.Config.Validation
import SolarTelemetry.Proofs.Config.Opening
import SolarTelemetry.Proofs.Session.ClockSync
import SolarTelemetry.Proofs.Session.Wire
import SolarTelemetry.Proofs.Frame.Stuffing
import SolarTelemetry.Proofs.Loop
import SolarTelemetry.Proofs.Frame.Seeking
import SolarTelemetry.Proofs.Link.Unpacking
import SolarTelemetry.Proofs.Progress
import SolarTelemetry.Datalog.Writers
import SolarTelemetry.Proofs.Json.Reader
import SolarTelemetry.Proofs.Json.Numbers
import SolarTelemetry.Proofs.Json.Strings
import SolarTelemetry.Proofs.Json.RoundTrip
import SolarTelemetry.Proofs.Polling.Entries
import SolarTelemetry.Proofs.Datalog
