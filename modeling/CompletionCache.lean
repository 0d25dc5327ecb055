import CompletionCache.Backend.Basic
import CompletionCache.Backend.Table
import CompletionCache.Blank
import CompletionCache.CommandLine
import CompletionCache.Config.Backend
import CompletionCache.Config.Basic
import CompletionCache.Config.Store
import CompletionCache.Decimal.Binary64
import CompletionCache.Decimal.Digits
import CompletionCache.Decimal.Reader
import CompletionCache.Eligibility
import CompletionCache.Entry
import CompletionCache.Error
import CompletionCache.File
import CompletionCache.Fingerprint
import CompletionCache.Json.Basic
import CompletionCache.Json.Mismatch
import CompletionCache.Json.Printer
import CompletionCache.Json.Reader
import CompletionCache.Json.Record
import CompletionCache.LocalCache
import CompletionCache.Main
import CompletionCache.Manager
import CompletionCache.Positional
import CompletionCache.Recency
import CompletionCache.Request.Basic
import CompletionCache.Request.Body
import CompletionCache.Request.Message
import CompletionCache.Request.Tool
import CompletionCache.Response
import CompletionCache.Settings.Basic
import CompletionCache.Settings.Cache
import CompletionCache.Settings.Overrides
import CompletionCache.Settings.Yaml
import CompletionCache.Sha256
import CompletionCache.SharedCache
import CompletionCache.Store.Command
import CompletionCache.Store.Endpoint
import CompletionCache.Store.Eviction
import CompletionCache.Store.Glob
import CompletionCache.Store.Keyspace
import CompletionCache.Time
import CompletionCache.Unprintable
import CompletionCache.Url.Basic
import CompletionCache.Url.Host
import CompletionCache.Url.Path
import CompletionCache.Url.Percent
import CompletionCache.Yaml.Cursor
import CompletionCache.Yaml.Node
import CompletionCache.Yaml.Scalar
import CompletionCache.Yaml.Token
import CompletionCache.Yaml.Value
import CompletionCache.Proofs.Backend.Deletion
import CompletionCache.Proofs.Backend.Faithful
import CompletionCache.Proofs.Backend.Run
import CompletionCache.Proofs.Backend.Tally
import CompletionCache.Proofs.Config.Names
import CompletionCache.Proofs.Config.Redaction
import CompletionCache.Proofs.Decimal.Digits
import CompletionCache.Proofs.Decimal.Rounding
import CompletionCache.Proofs.Decimal.Whole
import CompletionCache.Proofs.Entry.Document
import CompletionCache.Proofs.Entry.Instants
import CompletionCache.Proofs.Entry.Lifetime
import CompletionCache.Proofs.Entry.ReadBack
import CompletionCache.Proofs.Json.Collected
import CompletionCache.Proofs.Json.MemberOrder
import CompletionCache.Proofs.Json.NormalForm
import CompletionCache.Proofs.Json.NumberText
import CompletionCache.Proofs.Json.ReadBack
import CompletionCache.Proofs.Json.ReadPrintable
import CompletionCache.Proofs.Json.Record
import CompletionCache.Proofs.LocalCache.Displacement
import CompletionCache.Proofs.LocalCache.LastWrite
import CompletionCache.Proofs.LocalCache.Reports
import CompletionCache.Proofs.LocalCache.Retention
import CompletionCache.Proofs.LocalCache.Staleness
import CompletionCache.Proofs.LocalCache.View
import CompletionCache.Proofs.LocalCache.WellKept
import CompletionCache.Proofs.Manager.Accounting
import CompletionCache.Proofs.Manager.Erasure
import CompletionCache.Proofs.Manager.FailOpen
import CompletionCache.Proofs.Manager.Memoisation
import CompletionCache.Proofs.Manager.Run
import CompletionCache.Proofs.Manager.Transparency
import CompletionCache.Proofs.Recency.Eviction
import CompletionCache.Proofs.Recency.Keys
import CompletionCache.Proofs.Recency.Order
import CompletionCache.Proofs.Request.CanonicalText
import CompletionCache.Proofs.Request.Decoders
import CompletionCache.Proofs.Request.MemberOrder
import CompletionCache.Proofs.Request.Rejection
import CompletionCache.Proofs.Request.RoundTrip
import CompletionCache.Proofs.Request.Spelling
import CompletionCache.Proofs.Request.Variants
import CompletionCache.Proofs.Request.WellFormed
import CompletionCache.Proofs.Response.Carried
import CompletionCache.Proofs.Settings.Build
import CompletionCache.Proofs.Settings.Overrides
import CompletionCache.Proofs.Settings.RoundTrip
import CompletionCache.Proofs.Settings.Unknown
import CompletionCache.Proofs.SharedCache.Attempt
import CompletionCache.Proofs.SharedCache.Backoff
import CompletionCache.Proofs.SharedCache.Capacity
import CompletionCache.Proofs.SharedCache.Contract
import CompletionCache.Proofs.SharedCache.Exchanges
import CompletionCache.Proofs.SharedCache.Faithful
import CompletionCache.Proofs.SharedCache.InTime
import CompletionCache.Proofs.SharedCache.Isolation
import CompletionCache.Proofs.SharedCache.Kept
import CompletionCache.Proofs.SharedCache.Mirrors
import CompletionCache.Proofs.SharedCache.Outcome
import CompletionCache.Proofs.SharedCache.RoundTrip
import CompletionCache.Proofs.SharedCache.Tally
import CompletionCache.Proofs.SharedCache.Trim
import CompletionCache.Proofs.Store.Agreement
import CompletionCache.Proofs.Store.Endpoint
import CompletionCache.Proofs.Store.Eviction
import CompletionCache.Proofs.Store.Exchange
import CompletionCache.Proofs.Store.Keyspace
import CompletionCache.Proofs.Store.Pattern
import CompletionCache.Proofs.Store.Ranking
import CompletionCache.Proofs.Store.Remembers
import CompletionCache.Proofs.Store.Selection
