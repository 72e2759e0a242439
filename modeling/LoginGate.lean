import LoginGate.AuthType
import LoginGate.Binary64.Basic
import LoginGate.Binary64.Decimal
import LoginGate.Call
import LoginGate.Certificates.Cache
import LoginGate.Certificates.KeyServer
import LoginGate.Cipher.Aes256
import LoginGate.Cipher.BigEndian
import LoginGate.Cipher.CounterMode
import LoginGate.Cipher.Hmac
import LoginGate.Cipher.RsaSignature
import LoginGate.Cipher.Sha256
import LoginGate.CommandLine.Arguments
import LoginGate.CommandLine.Help
import LoginGate.CommandLine.Options
import LoginGate.CommandLine.Run
import LoginGate.Configuration.Basic
import LoginGate.Configuration.Loading
import LoginGate.Dispatch.Plan
import LoginGate.Dispatch.Session
import LoginGate.Entries
import LoginGate.Exposition
import LoginGate.Json.Decode
import LoginGate.Json.Passable
import LoginGate.Json.Reader
import LoginGate.Json.Tree
import LoginGate.Json.Value
import LoginGate.Json.Writer
import LoginGate.Main
import LoginGate.Merge
import LoginGate.Metrics
import LoginGate.Nintendo.Identity
import LoginGate.Nintendo.Settings
import LoginGate.Outcome
import LoginGate.Provider
import LoginGate.ProviderResult
import LoginGate.Query.Params
import LoginGate.Query.Segments
import LoginGate.Queue.Basic
import LoginGate.Queue.Exchange
import LoginGate.Queue.Timeline
import LoginGate.Records.Configuration
import LoginGate.Records.Names
import LoginGate.Records.Outcome
import LoginGate.Records.Request
import LoginGate.Registry
import LoginGate.Request
import LoginGate.Rules
import LoginGate.Settings.Convert
import LoginGate.Settings.Environment
import LoginGate.Settings.Tree
import LoginGate.Text.Base64
import LoginGate.Text.Blank
import LoginGate.Text.CaseRanges
import LoginGate.Text.FormEncoded
import LoginGate.Text.HiddenRanges
import LoginGate.Text.LowerCase
import LoginGate.Text.Quoted
import LoginGate.Text.Split
import LoginGate.Text.Utf8
import LoginGate.Token.Claims
import LoginGate.Token.Keys
import LoginGate.Token.Seal
import LoginGate.Toml.Assembly
import LoginGate.Toml.DateTime
import LoginGate.Toml.Document
import LoginGate.Toml.Marked
import LoginGate.Toml.Number
import LoginGate.Toml.Statement
import LoginGate.Toml.Text
import LoginGate.Toml.Value
import LoginGate.WebToken.Compact
import LoginGate.WebToken.Header
import LoginGate.WebToken.Key
import LoginGate.Word
import LoginGate.Proofs.Queue.Operations
import LoginGate.Proofs.Binary64
import LoginGate.Proofs.Decimal
import LoginGate.Proofs.Entries
import LoginGate.Proofs.ExplicitDenial
import LoginGate.Proofs.Json.RoundTrip
import LoginGate.Proofs.MergedQuery
import LoginGate.Proofs.Queue.Capacity
import LoginGate.Proofs.Queue.Conservation
import LoginGate.Proofs.Queue.Order
import LoginGate.Proofs.Queue.Offline
import LoginGate.Proofs.Queue.Gate
import LoginGate.Proofs.Queue.Punctual
import LoginGate.Proofs.Text.Blank
import LoginGate.Proofs.Text.Base64
import LoginGate.Proofs.DashboardValues
import LoginGate.Proofs.Dispatch.Kinds
import LoginGate.Proofs.Dispatch.Plans
import LoginGate.Proofs.Dispatch.Batches
import LoginGate.Proofs.Dispatch.FailClosed
import LoginGate.Proofs.Json.Strings
import LoginGate.Proofs.Json.Records
import LoginGate.Proofs.Token.Record
import LoginGate.Proofs.Token.RoundTrip
import LoginGate.Proofs.Token.Acceptance
import LoginGate.Proofs.Token.Rotation
import LoginGate.Proofs.Nintendo.Environments
import LoginGate.Proofs.Certificates.Deadline
import LoginGate.Proofs.Nintendo.Acceptance
import LoginGate.Proofs.Nintendo.Identities
import LoginGate.Proofs.Certificates.Course
import LoginGate.Proofs.Certificates.Runs
import LoginGate.Proofs.Certificates.Answers
import LoginGate.Proofs.Certificates.Coalescing
import LoginGate.Proofs.Nintendo.KeyServers
import LoginGate.Proofs.Dispatch.Traffic
import LoginGate.Proofs.Dispatch.Accounting
import LoginGate.Proofs.Dispatch.Registries
import LoginGate.Proofs.Queue.Stations
import LoginGate.Proofs.RequiredParameters
import LoginGate.Proofs.Dispatch.Calls
import LoginGate.Proofs.Dispatch.Histories
import LoginGate.Proofs.Dispatch.Rebuilds
import LoginGate.Proofs.Dispatch.Routing
import LoginGate.Proofs.Dispatch.ParameterOrder
import LoginGate.Proofs.Token.Fallback
import LoginGate.Proofs.Dispatch.RedactedLog
import LoginGate.Proofs.ReservedNames
import LoginGate.Proofs.Json.Nesting
import LoginGate.Proofs.Records.Requests
import LoginGate.Proofs.Records.Outcomes
import LoginGate.Proofs.Records.ReadBack
import LoginGate.Proofs.MergedBody
import LoginGate.Proofs.ResultTable
import LoginGate.Proofs.ResultShapes
import LoginGate.Proofs.Queue.Origins
import LoginGate.Proofs.Queue.Settling
import LoginGate.Proofs.Dispatch.Leniency
import LoginGate.Proofs.Queue.Answered
import LoginGate.Proofs.Dispatch.Answers
import LoginGate.Proofs.AppendedQuery
import LoginGate.Proofs.Queue.Expiry
import LoginGate.Proofs.Queue.Retries
import LoginGate.Proofs.Dispatch.Validated
import LoginGate.Proofs.Nintendo.ClockWindow
import LoginGate.Proofs.Configuration.TextSettings
import LoginGate.Proofs.Configuration.QueueOverrides
import LoginGate.Proofs.Metrics.Agreement
import LoginGate.Proofs.Query.Readers
import LoginGate.Proofs.Query.Rendering
