import NewsSearch.Calendar.Date
import NewsSearch.Calendar.Iso
import NewsSearch.Calendar.Moment
import NewsSearch.Client.Exchange
import NewsSearch.Client.Options
import NewsSearch.Client.Pacer
import NewsSearch.Client.Seconds
import NewsSearch.Client.Session
import NewsSearch.Command.Arguments
import NewsSearch.Command.Compile
import NewsSearch.Command.Program
import NewsSearch.Command.Search
import NewsSearch.Config.Load
import NewsSearch.Config.Merge
import NewsSearch.Config.QueryEntry
import NewsSearch.Config.Read
import NewsSearch.Config.Settings
import NewsSearch.Config.Setup
import NewsSearch.Data.Basic
import NewsSearch.Data.Display
import NewsSearch.Data.Scalar
import NewsSearch.Data.Wording
import NewsSearch.Fault
import NewsSearch.Fault.Dispatch
import NewsSearch.Fault.Setting
import NewsSearch.Fault.Usage
import NewsSearch.Fault.Value
import NewsSearch.Field
import NewsSearch.Files.Path
import NewsSearch.Files.Place
import NewsSearch.Files.Tree
import NewsSearch.Journal
import NewsSearch.Json.Reader
import NewsSearch.Json.Writer
import NewsSearch.Mapping
import NewsSearch.Number.Binary64
import NewsSearch.Number.Bits
import NewsSearch.Number.Numeral
import NewsSearch.Number.Power
import NewsSearch.Number.Shortest
import NewsSearch.Paging.Catalogue
import NewsSearch.Paging.Dispatcher
import NewsSearch.Paging.Options
import NewsSearch.Paging.Pager
import NewsSearch.Paging.Pass
import NewsSearch.Proofs.Accepted
import NewsSearch.Proofs.Client.Attempts
import NewsSearch.Proofs.Client.Pacing
import NewsSearch.Proofs.Client.Posting
import NewsSearch.Proofs.Client.Retrying
import NewsSearch.Proofs.Json.Halves
import NewsSearch.Proofs.Json.Reading
import NewsSearch.Proofs.Json.RoundTrip
import NewsSearch.Proofs.Json.Token
import NewsSearch.Proofs.Json.Writing
import NewsSearch.Proofs.Paging.Bodies
import NewsSearch.Proofs.Paging.Catalogue
import NewsSearch.Proofs.Paging.Delivery
import NewsSearch.Proofs.Paging.ListingBody
import NewsSearch.Proofs.Paging.Making
import NewsSearch.Proofs.Paging.Pass
import NewsSearch.Proofs.Paging.Requests
import NewsSearch.Proofs.Paging.Safety
import NewsSearch.Proofs.Paging.Service
import NewsSearch.Proofs.Query.Acceptance
import NewsSearch.Proofs.Query.Calls
import NewsSearch.Proofs.Query.CheckedCondition
import NewsSearch.Proofs.Query.DocumentReading
import NewsSearch.Proofs.Query.Evaluation
import NewsSearch.Proofs.Query.FlatMeaning
import NewsSearch.Proofs.Query.FlatModifiers
import NewsSearch.Proofs.Query.FlatParameter
import NewsSearch.Proofs.Query.Grammar
import NewsSearch.Proofs.Query.Reachable
import NewsSearch.Proofs.Query.Refusals
import NewsSearch.Proofs.Query.RoundTrip
import NewsSearch.Proofs.Query.SavedQuery
import NewsSearch.Proofs.Query.SentCondition
import NewsSearch.Proofs.Query.Vocabulary
import NewsSearch.Proofs.Record
import NewsSearch.Query.Argument
import NewsSearch.Query.Call
import NewsSearch.Query.Condition
import NewsSearch.Query.Document
import NewsSearch.Query.Explicit
import NewsSearch.Query.FieldValue
import NewsSearch.Query.Filter
import NewsSearch.Query.Flat
import NewsSearch.Query.Key
import NewsSearch.Query.Node
import NewsSearch.Query.Operator
import NewsSearch.Query.Search
import NewsSearch.Report.Console
import NewsSearch.Report.Format
import NewsSearch.Report.Record
import NewsSearch.Report.Text
import NewsSearch.Search.Connection
import NewsSearch.Search.Outcome
import NewsSearch.Section.Requested
import NewsSearch.Section.Response
import NewsSearch.Text.Alphanumeric
import NewsSearch.Text.Base64
import NewsSearch.Text.Blank
import NewsSearch.Text.CodePoint
import NewsSearch.Text.Decimal
import NewsSearch.Text.Digit
import NewsSearch.Text.Hex
import NewsSearch.Text.Integer
import NewsSearch.Text.Letter
import NewsSearch.Text.Membership
import NewsSearch.Text.Printable
import NewsSearch.Text.Quoted
import NewsSearch.Text.Similar
import NewsSearch.Text.Surrogate
import NewsSearch.Yaml.Kind
import NewsSearch.Yaml.Place
import NewsSearch.Yaml.Reader
import NewsSearch.Yaml.Scalar
import NewsSearch.Yaml.ScalarText
import NewsSearch.Yaml.Tag
import NewsSearch.Yaml.Tree
import NewsSearch.Main
import NewsSearch.Proofs.Query.SentSearch
import NewsSearch.Proofs.Config.AcceptedSettings
import NewsSearch.Proofs.Config.EmptyQueries
import NewsSearch.Proofs.Report.FileText
import NewsSearch.Proofs.Search.Transcript
import NewsSearch.Proofs.Command.AllSearches
import NewsSearch.Proofs.Section.Decoding
import NewsSearch.Proofs.Query.WireForm
import NewsSearch.Proofs.Calendar.WrittenDay
import NewsSearch.Proofs.Text.Numeral
import NewsSearch.Proofs.Text.Trimming
import NewsSearch.Proofs.Config.EntryRefusals
import NewsSearch.Proofs.Config.Refusals
import NewsSearch.Proofs.Query.Shorthand
import NewsSearch.Proofs.Query.UnreadModifiers
import NewsSearch.Proofs.Paging.Bounds
import NewsSearch.Proofs.Search.Reporting
import NewsSearch.Proofs.Client.Backoff
import NewsSearch.Proofs.Config.Merging
import NewsSearch.Proofs.Search.Agreement
import NewsSearch.Proofs.Command.ReadBack
import NewsSearch.Proofs.Command.ShownBodies
