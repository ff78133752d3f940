import GraphBroker.Access.AccessToken
import GraphBroker.Access.Authority
import GraphBroker.Access.Grant
import GraphBroker.Access.HashText
import GraphBroker.Access.Header
import GraphBroker.Access.Identity
import GraphBroker.Access.Registry
import GraphBroker.Access.Secret
import GraphBroker.Access.Signature
import GraphBroker.Access.Supply
import GraphBroker.Access.TokenHeader
import GraphBroker.Broker.Basic
import GraphBroker.Broker.Start
import GraphBroker.Broker.Surface
import GraphBroker.Broker.World
import GraphBroker.Channel.Consumer
import GraphBroker.Channel.Fragments
import GraphBroker.Channel.Message
import GraphBroker.Channel.Notification
import GraphBroker.Channel.Request
import GraphBroker.Cli.Arguments
import GraphBroker.Cli.Help
import GraphBroker.Cli.Layout
import GraphBroker.Cli.Profile
import GraphBroker.Cli.Run
import GraphBroker.Client.Basic
import GraphBroker.Config.Basic
import GraphBroker.Config.Files
import GraphBroker.Config.Layers
import GraphBroker.Config.Leaves
import GraphBroker.Config.Path
import GraphBroker.Decimal.Double
import GraphBroker.Decimal.Shortest
import GraphBroker.Digest.Argon2
import GraphBroker.Digest.Blake2b
import GraphBroker.Digest.Sha256
import GraphBroker.Engine.Basic
import GraphBroker.Engine.Faulty
import GraphBroker.Engine.Memory
import GraphBroker.Engine.Provided
import GraphBroker.Engine.Remote
import GraphBroker.Fault.Basic
import GraphBroker.Fault.Response
import GraphBroker.Gate.Basic
import GraphBroker.Gate.State
import GraphBroker.Http.Cors
import GraphBroker.Http.Exchange
import GraphBroker.Http.MediaType
import GraphBroker.Http.Network
import GraphBroker.Http.Pattern
import GraphBroker.Http.Routes
import GraphBroker.Http.Status
import GraphBroker.Http.Target
import GraphBroker.Json.Basic
import GraphBroker.Json.Reader
import GraphBroker.Json.Stream
import GraphBroker.Json.Writer
import GraphBroker.Main
import GraphBroker.Metrics
import GraphBroker.Proofs.Access.Acceptance
import GraphBroker.Proofs.Access.Calls
import GraphBroker.Proofs.Access.Grants
import GraphBroker.Proofs.Access.Headers
import GraphBroker.Proofs.Access.Readers
import GraphBroker.Proofs.Access.Records
import GraphBroker.Proofs.Access.Refreshes
import GraphBroker.Proofs.Access.Requests
import GraphBroker.Proofs.Access.Revocation
import GraphBroker.Proofs.Access.Secrets
import GraphBroker.Proofs.Access.Signing
import GraphBroker.Proofs.Access.Standing
import GraphBroker.Proofs.Access.Tokens
import GraphBroker.Proofs.Broker.Closing
import GraphBroker.Proofs.Broker.Counters
import GraphBroker.Proofs.Broker.Frames
import GraphBroker.Proofs.Broker.Gates
import GraphBroker.Proofs.Broker.HandOffs
import GraphBroker.Proofs.Broker.Isolation
import GraphBroker.Proofs.Broker.Neighbours
import GraphBroker.Proofs.Broker.Replies
import GraphBroker.Proofs.Broker.Service
import GraphBroker.Proofs.Broker.Verdicts
import GraphBroker.Proofs.Channel.Bearer
import GraphBroker.Proofs.Channel.Reassembly
import GraphBroker.Proofs.Channel.Unfinished
import GraphBroker.Proofs.Channel.Wire
import GraphBroker.Proofs.Engine.InMemory
import GraphBroker.Proofs.Gate.Calls
import GraphBroker.Proofs.Gate.Delivery
import GraphBroker.Proofs.Gate.Passage
import GraphBroker.Proofs.Json.Decoding
import GraphBroker.Proofs.Json.Identifiers
import GraphBroker.Proofs.Json.Numbers
import GraphBroker.Proofs.Json.Texts
import GraphBroker.Proofs.Json.Values
import GraphBroker.Proofs.Rdf.Changes
import GraphBroker.Proofs.Rdf.ResultsJson
import GraphBroker.Proofs.Scheduler.Carrying
import GraphBroker.Proofs.Scheduler.Change
import GraphBroker.Proofs.Scheduler.Counting
import GraphBroker.Proofs.Scheduler.Effect
import GraphBroker.Proofs.Scheduler.Freshness
import GraphBroker.Proofs.Scheduler.Graph
import GraphBroker.Proofs.Scheduler.Interleaving
import GraphBroker.Proofs.Scheduler.Leaving
import GraphBroker.Proofs.Scheduler.Limit
import GraphBroker.Proofs.Scheduler.Record
import GraphBroker.Proofs.Scheduler.Rejection
import GraphBroker.Proofs.Scheduler.Replay
import GraphBroker.Proofs.Scheduler.Round
import GraphBroker.Proofs.Sparql.Accepted
import GraphBroker.Proofs.Sparql.Agreement
import GraphBroker.Proofs.Sparql.Batches
import GraphBroker.Proofs.Sparql.ForcedTokens
import GraphBroker.Proofs.Sparql.Forcing
import GraphBroker.Proofs.Sparql.Grammar
import GraphBroker.Proofs.Sparql.Headers
import GraphBroker.Proofs.Sparql.Injection
import GraphBroker.Proofs.Sparql.Lexing
import GraphBroker.Proofs.Sparql.Lines
import GraphBroker.Proofs.Sparql.Matching
import GraphBroker.Proofs.Sparql.Meaning
import GraphBroker.Proofs.Sparql.Pieces
import GraphBroker.Proofs.Sparql.Reading
import GraphBroker.Proofs.Sparql.Replacing
import GraphBroker.Proofs.Sparql.Rows
import GraphBroker.Proofs.Sparql.Scanning
import GraphBroker.Proofs.Sparql.Segments
import GraphBroker.Proofs.Sparql.Solutions
import GraphBroker.Proofs.Sparql.Spelling
import GraphBroker.Proofs.Sparql.Substitution
import GraphBroker.Proofs.Sparql.Updates
import GraphBroker.Proofs.Sparql.Words
import GraphBroker.Proofs.Subscription.Counting
import GraphBroker.Proofs.Subscription.Lookup
import GraphBroker.Proofs.Subscription.OneMap
import GraphBroker.Proofs.Text.Base64
import GraphBroker.Proofs.Text.Utf8
import GraphBroker.Rdf.Binding
import GraphBroker.Rdf.Graph
import GraphBroker.Rdf.ResultSet
import GraphBroker.Rdf.ResultsJson
import GraphBroker.Rdf.Term
import GraphBroker.Scheduler.Basic
import GraphBroker.Sparql.Apply
import GraphBroker.Sparql.Error
import GraphBroker.Sparql.Forced
import GraphBroker.Sparql.Lexer
import GraphBroker.Sparql.Operation
import GraphBroker.Sparql.Outline
import GraphBroker.Sparql.Parser
import GraphBroker.Sparql.Printer
import GraphBroker.Sparql.Query
import GraphBroker.Sparql.Solve
import GraphBroker.Sparql.Token
import GraphBroker.Subscription.Table
import GraphBroker.Text.Alphanumeric
import GraphBroker.Text.Base64
import GraphBroker.Text.Blank
import GraphBroker.Text.CodePoints
import GraphBroker.Text.Digits
import GraphBroker.Text.Instant
import GraphBroker.Text.Quoted
import GraphBroker.Text.Utf8
import GraphBroker.Text.Width
import GraphBroker.Toml.Document
import GraphBroker.Toml.Scalar
import GraphBroker.Uuid
import GraphBroker.Proofs.Sparql.Forms
import GraphBroker.Proofs.Sparql.Numbers
