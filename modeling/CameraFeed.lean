import CameraFeed.Binary64.Basic
import CameraFeed.Binary64.Notation
import CameraFeed.Binary64.Shortest
import CameraFeed.CommandLine
import CameraFeed.Config.Environment
import CameraFeed.Config.Reader
import CameraFeed.Config.Settings
import CameraFeed.Config.Value
import CameraFeed.Console.Basic
import CameraFeed.Console.Screen
import CameraFeed.Console.Session
import CameraFeed.Console.Status
import CameraFeed.Decimal.Numeral
import CameraFeed.Device.Basic
import CameraFeed.Device.Event
import CameraFeed.EventStream.Frame
import CameraFeed.EventStream.Message
import CameraFeed.Feed.Backoff
import CameraFeed.Feed.Buffer
import CameraFeed.Feed.Command
import CameraFeed.Feed.Connection
import CameraFeed.Feed.Live
import CameraFeed.Feed.Projection
import CameraFeed.Feed.TaskTable
import CameraFeed.Feed.Schedule
import CameraFeed.Feed.Table
import CameraFeed.Filter.Basic
import CameraFeed.Filter.Choices
import CameraFeed.Filter.ValueSet
import CameraFeed.Http.Basic
import CameraFeed.Http.Status
import CameraFeed.Json.Basic
import CameraFeed.Json.Cursor
import CameraFeed.Json.Fault
import CameraFeed.Json.Numbers
import CameraFeed.Json.Printer
import CameraFeed.Json.Reader
import CameraFeed.Json.Record
import CameraFeed.Json.Skip
import CameraFeed.Json.Strings
import CameraFeed.Lookup
import CameraFeed.Main
import CameraFeed.Proofs.Config.Startup
import CameraFeed.Proofs.Console.Endings
import CameraFeed.Proofs.Console.Failures
import CameraFeed.Proofs.Console.Runs
import CameraFeed.Proofs.Console.Sessions
import CameraFeed.Proofs.Console.Toggling
import CameraFeed.Proofs.Decimal.Numeral
import CameraFeed.Proofs.Device.Event
import CameraFeed.Proofs.EventStream.Chunks
import CameraFeed.Proofs.EventStream.Fields
import CameraFeed.Proofs.EventStream.Kinds
import CameraFeed.Proofs.EventStream.Texts
import CameraFeed.Proofs.Feed.Attempts
import CameraFeed.Proofs.Feed.Columns
import CameraFeed.Proofs.Feed.Commands
import CameraFeed.Proofs.Feed.Connections
import CameraFeed.Proofs.Feed.Delays
import CameraFeed.Proofs.Feed.Departure
import CameraFeed.Proofs.Feed.Evictions
import CameraFeed.Proofs.Feed.Expansion
import CameraFeed.Proofs.Feed.Ledger
import CameraFeed.Proofs.Feed.Operations
import CameraFeed.Proofs.Feed.Payloads
import CameraFeed.Proofs.Feed.Rows
import CameraFeed.Proofs.Feed.TaskTable
import CameraFeed.Proofs.Feed.Schedule
import CameraFeed.Proofs.Feed.States
import CameraFeed.Proofs.Feed.Steps
import CameraFeed.Proofs.Feed.Tables
import CameraFeed.Proofs.Feed.Tasks
import CameraFeed.Proofs.Filter.Merging
import CameraFeed.Proofs.Filter.Sharing
import CameraFeed.Proofs.Filter.Values
import CameraFeed.Proofs.Json.Brackets
import CameraFeed.Proofs.Json.Cursor
import CameraFeed.Proofs.Json.Members
import CameraFeed.Proofs.Json.Numbers
import CameraFeed.Proofs.Json.Printing
import CameraFeed.Proofs.Json.Reading
import CameraFeed.Proofs.Json.Record
import CameraFeed.Proofs.Json.Skipping
import CameraFeed.Proofs.Json.Strings
import CameraFeed.Proofs.Json.Written
import CameraFeed.Proofs.Push.Frames
import CameraFeed.Proofs.Push.Silence
import CameraFeed.Proofs.Push.Subscribing
import CameraFeed.Proofs.Query.Form
import CameraFeed.Proofs.Text.Lines
import CameraFeed.Proofs.Text.Utf8
import CameraFeed.Proofs.Text.Words
import CameraFeed.Proofs.Time.Relative
import CameraFeed.Proofs.Time.Stamp
import CameraFeed.Proofs.Time.Uptime
import CameraFeed.Proofs.Url.Queries
import CameraFeed.Push.Client
import CameraFeed.Push.EventSource
import CameraFeed.Push.Message
import CameraFeed.Push.Transport
import CameraFeed.Push.WebSocket
import CameraFeed.Query.Form
import CameraFeed.Query.Percent
import CameraFeed.Text.Blank
import CameraFeed.Text.CharSet
import CameraFeed.Text.Combining
import CameraFeed.Text.Composition
import CameraFeed.Text.Marks
import CameraFeed.Text.Normal
import CameraFeed.Text.Pieces
import CameraFeed.Text.Quoted
import CameraFeed.Text.Unassigned
import CameraFeed.Text.Unprintable
import CameraFeed.Text.Utf8
import CameraFeed.Time.Calendar
import CameraFeed.Time.Instant
import CameraFeed.Time.Relative
import CameraFeed.Time.Rfc3339
import CameraFeed.Time.Span
import CameraFeed.Time.SpanReader
import CameraFeed.Time.Uptime
import CameraFeed.Time.Zone
import CameraFeed.Toml.Basic
import CameraFeed.Toml.Document
import CameraFeed.Toml.Scalars
import CameraFeed.Toml.Strings
import CameraFeed.Url.Address
import CameraFeed.Url.Basic
import CameraFeed.Url.Domain.Direction
import CameraFeed.Url.Domain.Joining
import CameraFeed.Url.Domain.Mapping
import CameraFeed.Url.Domain.Name
import CameraFeed.Url.Host
import CameraFeed.Url.Parser
import CameraFeed.Url.Punycode
import CameraFeed.Url.Segments
