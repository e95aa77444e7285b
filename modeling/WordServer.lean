import WordServer.Entries
import WordServer.Text.Blank
import WordServer.Text.Caseless
import WordServer.Text.Cut
import WordServer.Text.Quoted
import WordServer.Text.Alphanumeric
import WordServer.Text.Utf8
import WordServer.Json.Reader
import WordServer.Json.Writer
import WordServer.Json.Record
import WordServer.Json.Wording
import WordServer.Wire.Buffered
import WordServer.Message.Decode
import WordServer.Session
import WordServer.Caller
import WordServer.OpenDocuments
import WordServer.Suggester
import WordServer.Service.Basic
import WordServer.Service.Summary
import WordServer.Address.Parser
import WordServer.Address.Resolve
import WordServer.FileTree
import WordServer.Network
import WordServer.Listener
import WordServer.Credentials
import WordServer.Toml.Basic
import WordServer.Toml.Strings
import WordServer.Toml.Reader
import WordServer.Settings.Basic
import WordServer.Settings.Load
import WordServer.Server.Basic
import WordServer.Command.Invocation
import WordServer.Command.Connect
import WordServer.Command.Listing
import WordServer.Main
import WordServer.Proofs.Entries
import WordServer.Proofs.Text.Ascii
import WordServer.Proofs.Text.Numeral
import WordServer.Proofs.Text.Utf8
import WordServer.Proofs.Json.Scalar
import WordServer.Proofs.Json.RoundTrip
import WordServer.Proofs.Wire.Charset
import WordServer.Proofs.Message.RequestId
import WordServer.Proofs.Message.Classify
import WordServer.Proofs.Message.ForeignCode
import WordServer.Proofs.Message.Malformed
import WordServer.Proofs.Message.RoundTrip
import WordServer.Proofs.Wire.Buffering
import WordServer.Proofs.Wire.Grammar
import WordServer.Proofs.Wire.RoundTrip
import WordServer.Proofs.Document.Position
import WordServer.Proofs.Document.Boundary
import WordServer.Proofs.Document.Word
import WordServer.Proofs.Suggester
import WordServer.Proofs.Dispatch.Router
import WordServer.Proofs.Service.Call
import WordServer.Proofs.Service.Lifecycle
import WordServer.Proofs.Service.Documents
import WordServer.Proofs.Service.Completion
import WordServer.Proofs.Service.Refusal
import WordServer.Proofs.Session.Transcript
import WordServer.Proofs.Session.Replies
import WordServer.Proofs.Session.Rejection
import WordServer.Proofs.Session.Exit
import WordServer.Proofs.Session.Limit
import WordServer.Proofs.Caller
import WordServer.Proofs.Server.Pool
import WordServer.Proofs.Server.Loop
import WordServer.Proofs.Message.Transcoding
import WordServer.Proofs.Wire.Faults
import WordServer.Proofs.Address.Parser
import WordServer.Proofs.Address.Display
import WordServer.Proofs.Command.Overrides
import WordServer.Proofs.Address.Options
import WordServer.Proofs.Wire.MediaType
import WordServer.Proofs.Dispatch.Registration
import WordServer.Proofs.Session.Progress
