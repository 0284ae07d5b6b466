import Rostering.Api.App
import Rostering.Api.Problem
import Rostering.Calendar.Date
import Rostering.Calendar.Reading
import Rostering.Calendar.Timestamp
import Rostering.CommandLine
import Rostering.Config.Dotenv
import Rostering.Config.Environment
import Rostering.Config.KeyPath
import Rostering.Config.Load
import Rostering.Config.Overlay
import Rostering.Config.Read
import Rostering.Config.Settings
import Rostering.Config.Tree
import Rostering.Http.Message
import Rostering.Json.Parse
import Rostering.Json.Value
import Rostering.Main
import Rostering.Mssql.ConnectString
import Rostering.Mssql.Error
import Rostering.Mssql.Executor
import Rostering.Net.Address
import Rostering.Net.Url
import Rostering.Number.Decimal
import Rostering.Number.Double
import Rostering.Postgres.ConnectUrl
import Rostering.Postgres.Error
import Rostering.Postgres.Executor
import Rostering.Proofs.Api.Elsewhere
import Rostering.Proofs.Api.Guarded
import Rostering.Proofs.Calendar.Acceptance
import Rostering.Proofs.Calendar.DayNumber
import Rostering.Proofs.Calendar.Digits
import Rostering.Proofs.Calendar.FixedWidth
import Rostering.Proofs.Calendar.Formats
import Rostering.Proofs.Calendar.Instants
import Rostering.Proofs.Calendar.Numerals
import Rostering.Proofs.Calendar.ReadBack
import Rostering.Proofs.Calendar.Shifting
import Rostering.Proofs.Calendar.Spelling
import Rostering.Proofs.Config.Opening
import Rostering.Proofs.Config.Overlaying
import Rostering.Proofs.Config.PageBounds
import Rostering.Proofs.Config.Printing
import Rostering.Proofs.Config.Sections
import Rostering.Proofs.Json.Grammar
import Rostering.Proofs.Json.Numbers
import Rostering.Proofs.Json.RoundTrip
import Rostering.Proofs.Json.Strings
import Rostering.Proofs.Mssql.Masking
import Rostering.Proofs.Net.LoginUrl
import Rostering.Proofs.Postgres.Login
import Rostering.Proofs.Postgres.Masking
import Rostering.Proofs.Query.Checking
import Rostering.Proofs.Query.ClauseText
import Rostering.Proofs.Query.LastValues
import Rostering.Proofs.Query.Layout
import Rostering.Proofs.Query.Leftmost
import Rostering.Proofs.Query.Operators
import Rostering.Proofs.Query.Parameters
import Rostering.Proofs.Query.Refusals
import Rostering.Proofs.Query.Resolution
import Rostering.Proofs.Query.RoundTrip
import Rostering.Proofs.Roster.FixedPoint
import Rostering.Proofs.Service.Columns
import Rostering.Proofs.Service.Tiling
import Rostering.Proofs.Shape.Normalizing
import Rostering.Proofs.Shape.TextColumns
import Rostering.Proofs.Sql.Agreement
import Rostering.Proofs.Sql.Binding
import Rostering.Proofs.Sql.Containment
import Rostering.Proofs.Sql.Contents
import Rostering.Proofs.Sql.Formula
import Rostering.Proofs.Sql.Lexer
import Rostering.Proofs.Sql.Literals
import Rostering.Proofs.Sql.Lookup
import Rostering.Proofs.Sql.Meaning
import Rostering.Proofs.Sql.Noninterference
import Rostering.Proofs.Sql.Ordering
import Rostering.Proofs.Sql.Paging
import Rostering.Proofs.Sql.Patterns
import Rostering.Proofs.Sql.Placeholders
import Rostering.Proofs.Sql.Reading
import Rostering.Proofs.Sql.SortList
import Rostering.Proofs.Sql.Spacing
import Rostering.Proofs.Sql.Spelling
import Rostering.Proofs.Storage.Rows
import Rostering.Proofs.Text.Cutting
import Rostering.Proofs.Text.FormQuery
import Rostering.Proofs.Text.Occurrences
import Rostering.Proofs.Text.Splitting
import Rostering.Proofs.Text.Trimming
import Rostering.Proofs.Text.Unescaping
import Rostering.Proofs.Text.Utf8
import Rostering.Proofs.Text.Words
import Rostering.Proofs.Toml.Documents
import Rostering.Proofs.Toml.Lines
import Rostering.Proofs.Toml.Strings
import Rostering.Proofs.Toml.Tables
import Rostering.Query.Filter
import Rostering.Query.Request
import Rostering.Roster.Catalogue
import Rostering.Roster.Endpoint
import Rostering.Roster.Resource
import Rostering.Server
import Rostering.Service
import Rostering.Sql.Select
import Rostering.Sql.Sink
import Rostering.Sql.Token
import Rostering.Storage.Cell
import Rostering.Storage.Executor
import Rostering.Storage.Wire
import Rostering.Text.Basic
import Rostering.Text.Bytes
import Rostering.Text.Characters
import Rostering.Text.Integer
import Rostering.Toml.Quoted
import Rostering.Toml.Read
import Rostering.Toml.Scalar
import Rostering.Toml.Write
