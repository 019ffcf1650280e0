import StreamedInference.Conversation.ChatMl
import StreamedInference.Conversation.Prompt
import StreamedInference.Conversation.Turn
import StreamedInference.Decoder.Backend
import StreamedInference.Decoder.Engine
import StreamedInference.Decoder.Generation
import StreamedInference.Decoder.Trace
import StreamedInference.Failure
import StreamedInference.Gate
import StreamedInference.Generation.Accelerator
import StreamedInference.Generation.Consumers
import StreamedInference.Generation.Engine
import StreamedInference.Generation.Unit
import StreamedInference.Json.Reading
import StreamedInference.Json.Value
import StreamedInference.Log
import StreamedInference.Log.Filter
import StreamedInference.Log.Pattern
import StreamedInference.Main
import StreamedInference.Model.FileSystem
import StreamedInference.Model.FileTree
import StreamedInference.Model.Path
import StreamedInference.Net.Address
import StreamedInference.Net.Client
import StreamedInference.Net.Destination
import StreamedInference.Net.DomainName
import StreamedInference.Net.DomainName.Direction
import StreamedInference.Net.DomainName.Joining
import StreamedInference.Net.DomainName.Mapping
import StreamedInference.Net.Host
import StreamedInference.Net.Percent
import StreamedInference.Net.Punycode
import StreamedInference.Net.Url
import StreamedInference.Pool.Basic
import StreamedInference.Pool.Usage
import StreamedInference.Program
import StreamedInference.Proofs.Conversation.ChatMl
import StreamedInference.Proofs.Conversation.Extension
import StreamedInference.Proofs.Conversation.RoundTrip
import StreamedInference.Proofs.Conversation.Shape
import StreamedInference.Proofs.Decoder.Call
import StreamedInference.Proofs.Decoder.Course
import StreamedInference.Proofs.Decoder.Positions
import StreamedInference.Proofs.Decoder.Step
import StreamedInference.Proofs.Gate.Order
import StreamedInference.Proofs.Gate.Queue
import StreamedInference.Proofs.Generation.Advance
import StreamedInference.Proofs.Generation.Consumers
import StreamedInference.Proofs.Generation.Delivery
import StreamedInference.Proofs.Generation.Exclusion
import StreamedInference.Proofs.Generation.Ledger
import StreamedInference.Proofs.Generation.Replay
import StreamedInference.Proofs.Generation.Stream
import StreamedInference.Proofs.Json.Acceptance
import StreamedInference.Proofs.Json.Grammar
import StreamedInference.Proofs.Json.Lexeme
import StreamedInference.Proofs.Json.Reading
import StreamedInference.Proofs.Json.Writing
import StreamedInference.Proofs.Model.Choice
import StreamedInference.Proofs.Net.Address
import StreamedInference.Proofs.Net.Continuation
import StreamedInference.Proofs.Net.Groups
import StreamedInference.Proofs.Net.Percent
import StreamedInference.Proofs.Pool.Accounts
import StreamedInference.Proofs.Pool.Drained
import StreamedInference.Proofs.Pool.Holders
import StreamedInference.Proofs.Pool.Outcome
import StreamedInference.Proofs.Pool.Parties
import StreamedInference.Proofs.Pool.Shutdown
import StreamedInference.Proofs.Pool.Signals
import StreamedInference.Proofs.Pool.Slots
import StreamedInference.Proofs.Pool.Succession
import StreamedInference.Proofs.Pool.Turnover
import StreamedInference.Proofs.Program.Announcement
import StreamedInference.Proofs.Program.Capacity
import StreamedInference.Proofs.Program.Lifecycle
import StreamedInference.Proofs.Registry.Acknowledgement
import StreamedInference.Proofs.Registry.Identity
import StreamedInference.Proofs.Registry.Withdrawal
import StreamedInference.Proofs.Scheduling.Directory
import StreamedInference.Proofs.Scheduling.History
import StreamedInference.Proofs.Scheduling.Rest
import StreamedInference.Proofs.Server.Course
import StreamedInference.Proofs.Server.Move
import StreamedInference.Proofs.Server.Rest
import StreamedInference.Proofs.Service.Abandonment
import StreamedInference.Proofs.Service.Answers
import StreamedInference.Proofs.Service.Closing
import StreamedInference.Proofs.Service.Draining
import StreamedInference.Proofs.Service.Exclusion
import StreamedInference.Proofs.Service.Faithful
import StreamedInference.Proofs.Service.Interruption
import StreamedInference.Proofs.Service.Move
import StreamedInference.Proofs.Service.Refusal
import StreamedInference.Proofs.Service.Rest
import StreamedInference.Proofs.Service.Run
import StreamedInference.Proofs.Service.Sampling
import StreamedInference.Proofs.Service.Standings
import StreamedInference.Proofs.Service.Tally
import StreamedInference.Proofs.Service.Transcript
import StreamedInference.Proofs.Service.Turns
import StreamedInference.Proofs.Service.Verdicts
import StreamedInference.Proofs.Service.Waiting
import StreamedInference.Proofs.Service.Workload
import StreamedInference.Proofs.Session.Course
import StreamedInference.Proofs.Session.Move
import StreamedInference.Proofs.Settings.Acceptance
import StreamedInference.Proofs.Settings.Flags
import StreamedInference.Proofs.Settings.Precedence
import StreamedInference.Proofs.Single.Order
import StreamedInference.Proofs.Text.Buffer
import StreamedInference.Proofs.Text.Scan
import StreamedInference.Proofs.Text.Utf8
import StreamedInference.Proofs.Wire.Fields
import StreamedInference.Proofs.Wire.Grammar
import StreamedInference.Proofs.Wire.Merge
import StreamedInference.Proofs.Wire.Message
import StreamedInference.Proofs.Wire.Record
import StreamedInference.Proofs.Wire.Varint
import StreamedInference.Registry.Client
import StreamedInference.Registry.Registration
import StreamedInference.Sampling
import StreamedInference.Scheduling
import StreamedInference.Server.Basic
import StreamedInference.Server.Step
import StreamedInference.Service.Basic
import StreamedInference.Service.Step
import StreamedInference.Session.Basic
import StreamedInference.Session.Course
import StreamedInference.Session.Step
import StreamedInference.Settings.CommandLine
import StreamedInference.Settings.Configuration
import StreamedInference.Settings.EnvironmentFile
import StreamedInference.Settings.Setting
import StreamedInference.Single.Basic
import StreamedInference.Single.Reading
import StreamedInference.Single.Shortest
import StreamedInference.Text.Alphanumeric
import StreamedInference.Text.Blank
import StreamedInference.Text.Buffer
import StreamedInference.Text.CodeTable
import StreamedInference.Text.Composition
import StreamedInference.Text.ControlSequence
import StreamedInference.Text.Numeral
import StreamedInference.Text.Pieces
import StreamedInference.Text.Quoted
import StreamedInference.Text.Unprintable
import StreamedInference.Text.Utf8
import StreamedInference.Wire.Message
import StreamedInference.Wire.Record
import StreamedInference.Wire.Varint
