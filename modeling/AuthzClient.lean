import AuthzClient.Text.Blank
import AuthzClient.Text.Quoted
import AuthzClient.Text.Utf8
import AuthzClient.Text.Word
import AuthzClient.Decimal.Binary64
import AuthzClient.Decimal.Reader
import AuthzClient.Decimal.Shortest
import AuthzClient.Entries
import AuthzClient.Json.Value
import AuthzClient.Json.Writer
import AuthzClient.Json.Scanner
import AuthzClient.Json.Decoder
import AuthzClient.Time.Span
import AuthzClient.Time.SpanText
import AuthzClient.Time.HttpDate
import AuthzClient.Retry.Backoff
import AuthzClient.Http.Header
import AuthzClient.Retry.After
import AuthzClient.Text.Percent
import AuthzClient.Url.Form
import AuthzClient.Url.Parser
import AuthzClient.Url.Query
import AuthzClient.Http.Target
import AuthzClient.Secret
import AuthzClient.Settings.Environment
import AuthzClient.Settings.Reading
import AuthzClient.Settings.Options
import AuthzClient.Stream.Delivery
import AuthzClient.Token.Access
import AuthzClient.Token.Endpoint
import AuthzClient.Token.Answer
import AuthzClient.Http.Transport
import AuthzClient.Failure.ClientError
import AuthzClient.Log
import AuthzClient.Measurement
import AuthzClient.Token.Cache
import AuthzClient.Session
import AuthzClient.Call
import AuthzClient.Token.Source
import AuthzClient.Authorizer
import AuthzClient.Client
import AuthzClient.Client.Template
import AuthzClient.Token.Callers
import AuthzClient.Token.Crowd
import AuthzClient.Settings.Loading
import AuthzClient.Settings.Yaml.Document
import AuthzClient.Unicode.Preparation
import AuthzClient.Unicode.Composition
import AuthzClient.Unicode.Mark
import AuthzClient.Unicode.Direction
import AuthzClient.Unicode.Joining
import AuthzClient.Proofs.Stream.Pieces
import AuthzClient.Proofs.Stream.WholeBody
import AuthzClient.Proofs.Stream.Delivery
import AuthzClient.Proofs.Stream.Buffering
import AuthzClient.Proofs.Session.Actions
import AuthzClient.Proofs.Session.Changes
import AuthzClient.Proofs.Session.Pairs
import AuthzClient.Proofs.Http.Headers
import AuthzClient.Proofs.Http.DefaultHeaders
import AuthzClient.Proofs.Call.Course
import AuthzClient.Proofs.Call.Attempts
import AuthzClient.Proofs.Token.Steps
import AuthzClient.Proofs.Token.Freshness
import AuthzClient.Proofs.Token.Progress
import AuthzClient.Proofs.Token.SingleFlight
import AuthzClient.Proofs.Token.Invalidation
import AuthzClient.Proofs.Token.Crowd
import AuthzClient.Proofs.Json.Records
import AuthzClient.Proofs.Retry.Delays
import AuthzClient.Proofs.Call.Rounds
import AuthzClient.Proofs.Call.Chain
import AuthzClient.Proofs.Call.Waits
import AuthzClient.Proofs.Token.History
import AuthzClient.Proofs.Text.Percent
import AuthzClient.Proofs.Text.Utf8
import AuthzClient.Proofs.Text.Number
import AuthzClient.Proofs.Text.Trimming
import AuthzClient.Proofs.Url.Segments
import AuthzClient.Proofs.Url.Authority
import AuthzClient.Proofs.Url.Address
import AuthzClient.Proofs.Url.Host
import AuthzClient.Proofs.Url.Site
import AuthzClient.Proofs.Url.Tail
import AuthzClient.Proofs.Url.Written
import AuthzClient.Proofs.Token.Endpoint
import AuthzClient.Proofs.Client.Filling
import AuthzClient.Proofs.Client.Joining
import AuthzClient.Proofs.Client.Endpoint
import AuthzClient.Proofs.Client.Origin
import AuthzClient.Proofs.Client.Extension
import AuthzClient.Proofs.Call.Ledger
import AuthzClient.Proofs.Call.Durations
import AuthzClient.Proofs.Call.Blocked
import AuthzClient.Proofs.Client.Precedence
import AuthzClient.Proofs.Client.Classification
import AuthzClient.Proofs.Client.Substitution
import AuthzClient.Proofs.Client.Secrecy
import AuthzClient.Proofs.Client.Operations
import AuthzClient.Proofs.Client.Locality
import AuthzClient.Proofs.Time.SpanText
import AuthzClient.Proofs.Settings.Shown
import AuthzClient.Proofs.Client.Connection
import AuthzClient.Proofs.Client.Construction
import AuthzClient.Proofs.Client.Departure
import AuthzClient.Proofs.Client.Budget
import AuthzClient.Proofs.Retry.Backoff
import AuthzClient.Proofs.Retry.After
import AuthzClient.Proofs.Http.Body
import AuthzClient.Proofs.Url.Form
import AuthzClient.Proofs.Token.Exchange
import AuthzClient.Proofs.Client.Query
import AuthzClient.Proofs.Client.Screening
import AuthzClient.Proofs.Client.Preview
import AuthzClient.Proofs.Settings.Loading
import AuthzClient.Proofs.Token.Validity
import AuthzClient.Proofs.Settings.Spans
import AuthzClient.Proofs.Failure.Details
import AuthzClient.Proofs.Json.Leftovers
import AuthzClient.Proofs.Json.Standing
import AuthzClient.Proofs.Json.Layout
import AuthzClient.Proofs.Json.Grammar
import AuthzClient.Proofs.Stream.Entries
