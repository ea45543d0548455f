import ApiGateway.Auth.Bearer
import ApiGateway.Auth.Claims
import ApiGateway.Auth.Gate
import ApiGateway.Auth.Token
import ApiGateway.Backend.Basic
import ApiGateway.Backend.Status
import ApiGateway.Backend.StatusBook
import ApiGateway.CommandLine.Arguments
import ApiGateway.CommandLine.Overrides
import ApiGateway.CommandLine.Parameter
import ApiGateway.CommandLine.Startup
import ApiGateway.Config.Basic
import ApiGateway.Config.Document
import ApiGateway.Config.File
import ApiGateway.Config.Validation
import ApiGateway.Crypto.Base64
import ApiGateway.Crypto.Hmac
import ApiGateway.Crypto.Sha2
import ApiGateway.Engine.Basic
import ApiGateway.Engine.Body
import ApiGateway.Engine.Diagnostics
import ApiGateway.Engine.Schedule
import ApiGateway.Engine.Step
import ApiGateway.Engine.Waiting
import ApiGateway.Engine.World
import ApiGateway.Error
import ApiGateway.Files.Tree
import ApiGateway.Health.Probe
import ApiGateway.Health.ReadyGate
import ApiGateway.Http.ApiError
import ApiGateway.Http.Headers
import ApiGateway.Http.Message
import ApiGateway.Http.Uri
import ApiGateway.Json.Basic
import ApiGateway.Json.Reader
import ApiGateway.Json.Record
import ApiGateway.Json.Writer
import ApiGateway.Log.Console
import ApiGateway.Log.Level
import ApiGateway.Log.Logger
import ApiGateway.Main
import ApiGateway.Metrics.Basic
import ApiGateway.Metrics.Exposition
import ApiGateway.Net.Address
import ApiGateway.Network.Script
import ApiGateway.Number.Binary64
import ApiGateway.Number.Reading
import ApiGateway.Number.Shortest
import ApiGateway.Number.Word
import ApiGateway.Proofs.Auth.Credential
import ApiGateway.Proofs.Auth.SignedCredential
import ApiGateway.Proofs.Auth.Token
import ApiGateway.Proofs.Backend.Epoch
import ApiGateway.Proofs.Backend.FailedEpoch
import ApiGateway.Proofs.Backend.OpenCircuit
import ApiGateway.Proofs.Backend.Openings
import ApiGateway.Proofs.Backend.OperationHistory
import ApiGateway.Proofs.Config.CircuitSettings
import ApiGateway.Proofs.Config.RoundTrip
import ApiGateway.Proofs.Engine.Accounting
import ApiGateway.Proofs.Engine.Action
import ApiGateway.Proofs.Engine.Admission
import ApiGateway.Proofs.Engine.BodyEvents
import ApiGateway.Proofs.Engine.CircuitFeed
import ApiGateway.Proofs.Engine.CircuitShield
import ApiGateway.Proofs.Engine.Continuation
import ApiGateway.Proofs.Engine.Deadline
import ApiGateway.Proofs.Engine.EffectiveCircuit
import ApiGateway.Proofs.Engine.Execution
import ApiGateway.Proofs.Engine.Following
import ApiGateway.Proofs.Engine.GivenAnswers
import ApiGateway.Proofs.Engine.HealthLoop
import ApiGateway.Proofs.Engine.HealthRound
import ApiGateway.Proofs.Engine.HealthSchedule
import ApiGateway.Proofs.Engine.Isolation
import ApiGateway.Proofs.Engine.Lane
import ApiGateway.Proofs.Engine.Ledger
import ApiGateway.Proofs.Engine.OwnPages
import ApiGateway.Proofs.Engine.PassThrough
import ApiGateway.Proofs.Engine.PassedCredentials
import ApiGateway.Proofs.Engine.Provenance
import ApiGateway.Proofs.Engine.Readiness
import ApiGateway.Proofs.Engine.Replay
import ApiGateway.Proofs.Engine.ResponseStatus
import ApiGateway.Proofs.Engine.Standing
import ApiGateway.Proofs.Engine.StatusEvent
import ApiGateway.Proofs.Engine.StatusKeys
import ApiGateway.Proofs.Engine.Trace
import ApiGateway.Proofs.Engine.UpstreamAuthority
import ApiGateway.Proofs.Engine.ValidatedRoutes
import ApiGateway.Proofs.Files.Writing
import ApiGateway.Proofs.Http.Documents
import ApiGateway.Proofs.Http.HeaderText
import ApiGateway.Proofs.Json.Decoding
import ApiGateway.Proofs.Json.NumberText
import ApiGateway.Proofs.Json.OneLine
import ApiGateway.Proofs.Json.QuotedText
import ApiGateway.Proofs.Json.Written
import ApiGateway.Proofs.Log.FanOut
import ApiGateway.Proofs.Log.JsonLine
import ApiGateway.Proofs.Metrics.Tally
import ApiGateway.Proofs.Net.AddressText
import ApiGateway.Proofs.Net.SocketText
import ApiGateway.Proofs.Network.StatusCodes
import ApiGateway.Proofs.Number.UnitRatio
import ApiGateway.Proofs.Proxy.Forwarded
import ApiGateway.Proofs.Proxy.Headers
import ApiGateway.Proofs.Proxy.Join
import ApiGateway.Proofs.Proxy.Retry
import ApiGateway.Proofs.Routing.Backends
import ApiGateway.Proofs.Routing.Building
import ApiGateway.Proofs.Routing.Fallback
import ApiGateway.Proofs.Routing.LongestPrefix
import ApiGateway.Proofs.Routing.Rewriting
import ApiGateway.Proofs.Routing.Segments
import ApiGateway.Proofs.Routing.Shadowing
import ApiGateway.Proofs.Text.Digits
import ApiGateway.Proxy.Outbound
import ApiGateway.Proxy.Retry
import ApiGateway.Routing.Definition
import ApiGateway.Routing.Loading
import ApiGateway.Routing.Path
import ApiGateway.Routing.Table
import ApiGateway.Server.Listener
import ApiGateway.Text.Blank
import ApiGateway.Text.Chars
import ApiGateway.Text.LowerCase
import ApiGateway.Text.Quoted
import ApiGateway.Time.Duration
import ApiGateway.Time.Instant
import ApiGateway.Tls.Armor
import ApiGateway.Tls.Der
import ApiGateway.Tls.Identity
import ApiGateway.Tls.Key
import ApiGateway.Url.Basic
import ApiGateway.Url.Domain
import ApiGateway.Url.Parser
import ApiGateway.Url.PercentEncoding
import ApiGateway.Url.Punycode
import ApiGateway.Yaml.Composition
import ApiGateway.Yaml.Decoding
import ApiGateway.Yaml.Folding
import ApiGateway.Yaml.Node
import ApiGateway.Yaml.Property
import ApiGateway.Yaml.Scalar.Block
import ApiGateway.Yaml.Scalar.Plain
import ApiGateway.Yaml.Scalar.Quoted
import ApiGateway.Yaml.Source
import ApiGateway.Yaml.Token
import ApiGateway.Yaml.Tokens
import ApiGateway.Proofs.Metrics.ExpositionLines
import ApiGateway.Proofs.Metrics.Series
import ApiGateway.Proofs.Proxy.HopByHop
import ApiGateway.Proofs.Routing.CanonicalForms
import ApiGateway.Proofs.Metrics.Books
