import RpcServer.Call.Context
import RpcServer.Call.ReplyHeaders
import RpcServer.Call.Transport
import RpcServer.Config.Json
import RpcServer.Config.Loader
import RpcServer.Config.Reading
import RpcServer.Config.Schema
import RpcServer.Config.Validation
import RpcServer.Dict
import RpcServer.Header.Name
import RpcServer.Header.Value
import RpcServer.Headers
import RpcServer.Http.Dispatcher
import RpcServer.Http.Fallback
import RpcServer.Http.Message
import RpcServer.Http.Pattern
import RpcServer.Http.Query
import RpcServer.Http.RequestFault
import RpcServer.Http.RequestShape
import RpcServer.Http.Service
import RpcServer.Http.Uri
import RpcServer.Http.Wire
import RpcServer.Json.Diagnosis
import RpcServer.Json.Fault
import RpcServer.Json.Node
import RpcServer.Json.Printer
import RpcServer.Json.Token
import RpcServer.Json.Value
import RpcServer.Launch.Options
import RpcServer.Launch.Running
import RpcServer.Launch.Startup
import RpcServer.Log.Event
import RpcServer.Log.Filter
import RpcServer.Log.Line
import RpcServer.Log.Loggable
import RpcServer.Log.Output
import RpcServer.Main
import RpcServer.Metrics.Report
import RpcServer.Metrics.Sink
import RpcServer.Metrics.Summary
import RpcServer.Net.SocketAddress
import RpcServer.Number.Binary64
import RpcServer.Number.Decimal
import RpcServer.Number.Format
import RpcServer.Number.Shortest
import RpcServer.Operation
import RpcServer.Panic
import RpcServer.Payload
import RpcServer.Program
import RpcServer.Proofs.Awaiting
import RpcServer.Proofs.BaggagePropagation
import RpcServer.Proofs.BaggageReading
import RpcServer.Proofs.BodyLimit
import RpcServer.Proofs.Broadcast
import RpcServer.Proofs.Clock
import RpcServer.Proofs.CodecReplacement
import RpcServer.Proofs.Conservation
import RpcServer.Proofs.ContextFamily
import RpcServer.Proofs.Custody
import RpcServer.Proofs.DataEncoding
import RpcServer.Proofs.Delivery
import RpcServer.Proofs.Dict
import RpcServer.Proofs.Doneness
import RpcServer.Proofs.Emission
import RpcServer.Proofs.Encoding
import RpcServer.Proofs.EnvelopeReading
import RpcServer.Proofs.ErrorNesting
import RpcServer.Proofs.ErrorSecrecy
import RpcServer.Proofs.FailedRequests
import RpcServer.Proofs.FailureCodes
import RpcServer.Proofs.FailureCount
import RpcServer.Proofs.FreshSignals
import RpcServer.Proofs.HeaderRendering
import RpcServer.Proofs.HeaderTable
import RpcServer.Proofs.HeaderText
import RpcServer.Proofs.Identity
import RpcServer.Proofs.InFlight
import RpcServer.Proofs.Injection
import RpcServer.Proofs.InputGate
import RpcServer.Proofs.Invocation
import RpcServer.Proofs.JsonLexing
import RpcServer.Proofs.JsonOutline
import RpcServer.Proofs.JsonReading
import RpcServer.Proofs.JsonText
import RpcServer.Proofs.LetterCase
import RpcServer.Proofs.Lineage
import RpcServer.Proofs.Meters
import RpcServer.Proofs.Negotiation
import RpcServer.Proofs.Observation
import RpcServer.Proofs.PatternMatching
import RpcServer.Proofs.Recovery
import RpcServer.Proofs.Redaction
import RpcServer.Proofs.Registrations
import RpcServer.Proofs.ReplyAgreement
import RpcServer.Proofs.ReplyWrites
import RpcServer.Proofs.ResponseIdentity
import RpcServer.Proofs.Routing
import RpcServer.Proofs.Settlement
import RpcServer.Proofs.SpanPropagation
import RpcServer.Proofs.TextCuts
import RpcServer.Proofs.TimeLimits
import RpcServer.Proofs.TraceparentGrammar
import RpcServer.Proofs.Traffic
import RpcServer.Proofs.Validity
import RpcServer.Proofs.Wholeness
import RpcServer.Reply.Codec
import RpcServer.Reply.Encoder
import RpcServer.Reply.Envelope
import RpcServer.Reply.Resolver
import RpcServer.ServiceError
import RpcServer.Shutdown
import RpcServer.Text.Blank
import RpcServer.Text.Case
import RpcServer.Text.Digits
import RpcServer.Text.Hex
import RpcServer.Text.Inspection
import RpcServer.Text.Split
import RpcServer.Text.Unseen
import RpcServer.Text.Utf8
import RpcServer.Toml.Document
import RpcServer.Toml.Scalar
import RpcServer.Toml.Scan
import RpcServer.Toml.Value
import RpcServer.Trace.Baggage
import RpcServer.Trace.Propagation
import RpcServer.Trace.Span
import RpcServer.Tracer
import RpcServer.World
