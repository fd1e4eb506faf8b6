import Rebac.Client.Command
import Rebac.Client.Reference
import Rebac.CommandLine.Options
import Rebac.Config.Address
import Rebac.Config.Check
import Rebac.Config.Load
import Rebac.Config.Reading
import Rebac.Config.Settings
import Rebac.Config.Tree
import Rebac.Config.VariableFile
import Rebac.Config.VariableValue
import Rebac.Config.Variables
import Rebac.Credential.Authenticator
import Rebac.Credential.Bearer
import Rebac.Credential.Issuer
import Rebac.Credential.Preshared
import Rebac.Decimal.Plain
import Rebac.Decimal.Shortest
import Rebac.Failure
import Rebac.Gateway.Answer
import Rebac.Gateway.Cors
import Rebac.Gateway.Problem
import Rebac.Gateway.Route
import Rebac.Http.Fetch
import Rebac.Http.Message
import Rebac.Http.Reason
import Rebac.Http.Url
import Rebac.Json.Members
import Rebac.Json.Node
import Rebac.Json.Number
import Rebac.Json.Reader
import Rebac.Json.Syntax
import Rebac.Json.Text
import Rebac.Json.Writer
import Rebac.Log.Filter
import Rebac.Main
import Rebac.Message.Data
import Rebac.Message.Format
import Rebac.Message.Kind
import Rebac.Message.Permission
import Rebac.Message.Relation
import Rebac.Message.Schema
import Rebac.Message.Tenancy
import Rebac.Message.Watch
import Rebac.Metadata
import Rebac.Power
import Rebac.Profiler
import Rebac.Proofs.Config.Check
import Rebac.Proofs.Config.Precedence
import Rebac.Proofs.Config.Setting
import Rebac.Proofs.Config.Tree
import Rebac.Proofs.Config.VariableFile
import Rebac.Proofs.Config.Variables
import Rebac.Proofs.Credential.Issuer
import Rebac.Proofs.Credential.KeyCache
import Rebac.Proofs.Credential.OwnTokens
import Rebac.Proofs.Credential.Preshared
import Rebac.Proofs.Gateway.Answer
import Rebac.Proofs.Gateway.Cors
import Rebac.Proofs.Gateway.Failure
import Rebac.Proofs.Gateway.Route
import Rebac.Proofs.Gateway.Tenants
import Rebac.Proofs.Json.Document
import Rebac.Proofs.Json.Number
import Rebac.Proofs.Json.Spelling
import Rebac.Proofs.Json.Text
import Rebac.Proofs.Message.Formats
import Rebac.Proofs.Message.Tolerance
import Rebac.Proofs.Record.Json
import Rebac.Proofs.Record.Members
import Rebac.Proofs.Record.Reading
import Rebac.Proofs.Record.Tolerance
import Rebac.Proofs.Record.Wire
import Rebac.Proofs.Rule.Fault
import Rebac.Proofs.Rule.Form
import Rebac.Proofs.Rule.Pattern
import Rebac.Proofs.Rule.Report
import Rebac.Proofs.Rule.Valid
import Rebac.Proofs.Server.Bounds
import Rebac.Proofs.Server.Shutdown
import Rebac.Proofs.Server.Start
import Rebac.Proofs.Service.Admission
import Rebac.Proofs.Service.Calls
import Rebac.Proofs.Service.Failure
import Rebac.Proofs.Service.Feeds
import Rebac.Proofs.Service.NewTenant
import Rebac.Proofs.Service.Pages
import Rebac.Proofs.Service.Pipeline
import Rebac.Proofs.Service.Removal
import Rebac.Proofs.Service.Stored
import Rebac.Proofs.Service.Transfer
import Rebac.Proofs.Service.Validation
import Rebac.Proofs.Steps
import Rebac.Proofs.Store.Alike
import Rebac.Proofs.Store.ChangeLog
import Rebac.Proofs.Store.Check
import Rebac.Proofs.Store.Concurrent
import Rebac.Proofs.Store.Feed
import Rebac.Proofs.Store.Isolation
import Rebac.Proofs.Store.Listing
import Rebac.Proofs.Store.Lookup
import Rebac.Proofs.Store.Paging
import Rebac.Proofs.Store.Registry
import Rebac.Proofs.Store.Relationships
import Rebac.Proofs.Store.Replay
import Rebac.Proofs.Store.Run
import Rebac.Proofs.Store.Schemas
import Rebac.Proofs.Store.Token
import Rebac.Proofs.Store.WalkAmid
import Rebac.Proofs.Store.Watched
import Rebac.Proofs.Store.WellFormed
import Rebac.Proofs.Token.BuiltIn
import Rebac.Proofs.Token.KeySet
import Rebac.Proofs.Token.Library
import Rebac.Record.Json
import Rebac.Record.Shape
import Rebac.Record.Wire
import Rebac.Rule.Basic
import Rebac.Rule.Name
import Rebac.Rule.Request
import Rebac.Server.Command
import Rebac.Server.Event
import Rebac.Server.Health
import Rebac.Server.Kind
import Rebac.Server.Lifecycle
import Rebac.Server.Shutdown
import Rebac.Server.Start
import Rebac.Service.Backend
import Rebac.Service.Evaluator
import Rebac.Service.Limiter
import Rebac.Service.Outcome
import Rebac.Service.Pipeline
import Rebac.Service.Rpc
import Rebac.Status
import Rebac.Store.Basic
import Rebac.Store.Evaluator
import Rebac.Store.Feed
import Rebac.Store.Page
import Rebac.Store.Registry
import Rebac.Store.Selection
import Rebac.Table
import Rebac.Text.Alphanumeric
import Rebac.Text.Blank
import Rebac.Text.Extending
import Rebac.Text.Quoted
import Rebac.Text.Ranges
import Rebac.Text.Unprintable
import Rebac.Tls.Certificate
import Rebac.Tls.Credentials
import Rebac.Tls.Der
import Rebac.Tls.Pem
import Rebac.Tls.PrivateKey
import Rebac.Token.Base64
import Rebac.Token.Basic
import Rebac.Token.BuiltIn
import Rebac.Token.Curve
import Rebac.Token.Digest
import Rebac.Token.KeySet
import Rebac.Token.Reading
import Rebac.Token.Signature
import Rebac.Toml.Document
import Rebac.Toml.Scalar
import Rebac.Toml.Statement
import Rebac.Toml.Text
import Rebac.Toml.Value
