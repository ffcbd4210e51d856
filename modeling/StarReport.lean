import StarReport.CommandLine.Arguments
import StarReport.CommandLine.Run
import StarReport.Decimal.Range
import StarReport.Distinct
import StarReport.Document.Basic
import StarReport.Document.Decode
import StarReport.Document.Encode
import StarReport.Files.Basic
import StarReport.Files.Path
import StarReport.Http.MediaType
import StarReport.Http.Service
import StarReport.Json.Printer
import StarReport.Json.Reader
import StarReport.Json.Token
import StarReport.Main
import StarReport.Report.Binding
import StarReport.Report.Encode
import StarReport.Report.Listing
import StarReport.Report.Selection
import StarReport.Schema.Build
import StarReport.Schema.Load
import StarReport.Schema.Source
import StarReport.Settings.Basic
import StarReport.Settings.Expansion
import StarReport.Settings.Load
import StarReport.Sql.Grammar.Expression
import StarReport.Sql.Grammar.Queries
import StarReport.Sql.Grammar.Recogniser
import StarReport.Sql.Grammar.Tables
import StarReport.Sql.Keyword
import StarReport.Sql.Query
import StarReport.Sql.Quoted
import StarReport.Sql.Statement
import StarReport.Sql.Token
import StarReport.Sql.Validity
import StarReport.Star.Aggregate
import StarReport.Star.Basic
import StarReport.Star.Member
import StarReport.Text.Letters
import StarReport.Toml.Printer
import StarReport.Toml.Quoted
import StarReport.Toml.Reader
import StarReport.Toml.Scalar
import StarReport.Toml.Table
import StarReport.Toml.Value
import StarReport.Tree.Basic
import StarReport.Tree.Decode
import StarReport.Warehouse.Database
import StarReport.Warehouse.Table
import StarReport.Proofs.FirstFailure
import StarReport.Proofs.FirstOccurrences
import StarReport.Proofs.Sql.Query
import StarReport.Proofs.Report.Binding
import StarReport.Proofs.Report.Outcome
import StarReport.Proofs.Warehouse.Coherence
import StarReport.Proofs.Schema.Coherence
import StarReport.Proofs.Report.Scope
import StarReport.Proofs.Sql.Delimited
import StarReport.Proofs.Sql.Spelling
import StarReport.Proofs.Sql.Unambiguous
import StarReport.Proofs.Warehouse.Declaration
import StarReport.Proofs.Warehouse.Life
import StarReport.Proofs.Warehouse.Obtained
import StarReport.Proofs.Schema.Violation
import StarReport.Proofs.Schema.Described
import StarReport.Proofs.Schema.Faithful
import StarReport.Proofs.Schema.Asking
import StarReport.Proofs.Schema.Freshness
import StarReport.Proofs.Report.Edit
import StarReport.Proofs.Sql.Reading
import StarReport.Proofs.Report.Checked
import StarReport.Proofs.Sql.Run
import StarReport.Proofs.Star.Population
import StarReport.Proofs.Report.Membership
import StarReport.Proofs.Http.Deployment
import StarReport.Proofs.Json.Written
import StarReport.Proofs.CommandLine.Arguments
import StarReport.Proofs.Http.Agreement
import StarReport.Proofs.Sql.Toggle
import StarReport.Proofs.Warehouse.Attachment
import StarReport.Proofs.Star.Exchange
import StarReport.Proofs.Report.Soundness
import StarReport.Proofs.Tree.Meaning
import StarReport.Proofs.Tree.Reading
import StarReport.Proofs.Document.Represented
import StarReport.Proofs.Report.Order
import StarReport.Proofs.Schema.Session
import StarReport.Proofs.Schema.Race
import StarReport.Proofs.Toml.Written
import StarReport.Proofs.Document.Written
import StarReport.Proofs.Schema.Formats
import StarReport.Proofs.Report.Columns
import StarReport.Proofs.Report.Advertised
import StarReport.Proofs.Json.Indented
import StarReport.Proofs.Http.Metadata
import StarReport.Proofs.Schema.OneFormat
import StarReport.Proofs.Tree.Unread
import StarReport.Proofs.CommandLine.Compile
import StarReport.Proofs.Settings.Expansion
import StarReport.Proofs.Warehouse.Relating
import StarReport.Proofs.Warehouse.Restoration
import StarReport.Proofs.Warehouse.Journey
import StarReport.Proofs.Sql.Lexicon
import StarReport.Proofs.Sql.Lexemes
