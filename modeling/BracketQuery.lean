import BracketQuery.Arithmetic
import BracketQuery.Binary64
import BracketQuery.Binary64.Rounding
import BracketQuery.Binary64.Scaling
import BracketQuery.Binary64.Shortest
import BracketQuery.Binary64.Written
import BracketQuery.Calendar
import BracketQuery.CommandLine.Arguments
import BracketQuery.CommandLine.Commands
import BracketQuery.CommandLine.Configuration
import BracketQuery.CommandLine.Console
import BracketQuery.CommandLine.Disk
import BracketQuery.CommandLine.Display
import BracketQuery.CommandLine.Host
import BracketQuery.CommandLine.Invocation
import BracketQuery.CommandLine.Logging
import BracketQuery.CommandLine.Path
import BracketQuery.CommandLine.Run
import BracketQuery.Decimal.Layout
import BracketQuery.Decimal.Reader
import BracketQuery.Document.Decode
import BracketQuery.Document.Encode
import BracketQuery.Document.Omission
import BracketQuery.Document.Strict
import BracketQuery.Error
import BracketQuery.Filter.Node
import BracketQuery.Filter.Operator
import BracketQuery.Filter.Scalar
import BracketQuery.Integer
import BracketQuery.Intent
import BracketQuery.Json.Basic
import BracketQuery.Json.Fault
import BracketQuery.Json.Reader
import BracketQuery.Json.Typed
import BracketQuery.Json.Writer
import BracketQuery.KeyPath
import BracketQuery.Main
import BracketQuery.Normalization.Encode
import BracketQuery.Normalization.Options
import BracketQuery.Normalization.Report
import BracketQuery.Normalization.Walk
import BracketQuery.Percent
import BracketQuery.Populate
import BracketQuery.Proofs.Filter.Site
import BracketQuery.Regex
import BracketQuery.Regex.AgeData
import BracketQuery.Regex.Bracket
import BracketQuery.Regex.BreakData
import BracketQuery.Regex.CategoryData
import BracketQuery.Regex.Cursor
import BracketQuery.Regex.Depth
import BracketQuery.Regex.Error
import BracketQuery.Regex.Escape
import BracketQuery.Regex.FoldData
import BracketQuery.Regex.Folding
import BracketQuery.Regex.Pattern
import BracketQuery.Regex.Property
import BracketQuery.Regex.PropertyData
import BracketQuery.Regex.Reader
import BracketQuery.Regex.ScriptData
import BracketQuery.Regex.Syntax
import BracketQuery.Regex.Translation
import BracketQuery.Text.Blank
import BracketQuery.Text.CaseData
import BracketQuery.Text.Casing
import BracketQuery.Text.Cluster
import BracketQuery.Text.Digits
import BracketQuery.Text.MarkData
import BracketQuery.Text.Normal
import BracketQuery.Text.NormalData
import BracketQuery.Text.Partition
import BracketQuery.Text.PrintableData
import BracketQuery.Text.Quoted
import BracketQuery.Text.Ranges
import BracketQuery.Text.Runs
import BracketQuery.Text.Table
import BracketQuery.Text.Terminal
import BracketQuery.Text.Width
import BracketQuery.Text.WidthData
import BracketQuery.Toml.Basic
import BracketQuery.Toml.Document
import BracketQuery.Toml.Number
import BracketQuery.Toml.Quoted
import BracketQuery.Toml.Reader
import BracketQuery.Toml.Scan
import BracketQuery.Toml.Table
import BracketQuery.Toml.Time
import BracketQuery.Traced
import BracketQuery.TypeCodes
import BracketQuery.Url.Basic
import BracketQuery.Url.Direction
import BracketQuery.Url.DirectionData
import BracketQuery.Url.Domain
import BracketQuery.Url.DomainData
import BracketQuery.Url.Encoding
import BracketQuery.Url.Host
import BracketQuery.Url.Ipv4
import BracketQuery.Url.Ipv6
import BracketQuery.Url.Parser
import BracketQuery.Url.Punycode
import BracketQuery.Wire.Encode
import BracketQuery.Wire.Lowering
import BracketQuery.Wire.Params
import BracketQuery.Wire.Url
import BracketQuery.Proofs.Normalization.Site
import BracketQuery.Proofs.Normalization.Report
import BracketQuery.Proofs.Normalization.Reconciliation
import BracketQuery.Proofs.Wire.Category
import BracketQuery.Proofs.Normalization.Outcome
import BracketQuery.Proofs.Normalization.Unfiltered
import BracketQuery.Proofs.Filter.Meaning
import BracketQuery.Proofs.Normalization.Soundness
import BracketQuery.Proofs.Calendar
import BracketQuery.Proofs.Text.Casing
import BracketQuery.Proofs.TypeCodes
import BracketQuery.Proofs.Normalization.NormalForm
import BracketQuery.Proofs.Json.Document
import BracketQuery.Proofs.Document.Decoding
import BracketQuery.Proofs.Populate.Filters
import BracketQuery.Proofs.Wire.Part
import BracketQuery.Proofs.Document.Regular
import BracketQuery.Proofs.Document.Written
import BracketQuery.Proofs.Document.Rereading
import BracketQuery.Proofs.Document.RoundTrip
import BracketQuery.Proofs.Document.Resending
import BracketQuery.Proofs.Document.Flattening
import BracketQuery.Proofs.Json.Nulls
import BracketQuery.Proofs.Wire.Agreement
import BracketQuery.Proofs.Document.Places
import BracketQuery.Proofs.Document.Judgement
import BracketQuery.Proofs.Document.Nulls
import BracketQuery.Proofs.Json.Reading
import BracketQuery.Proofs.Percent
import BracketQuery.Proofs.Wire.QueryString
import BracketQuery.Proofs.Wire.Cover
import BracketQuery.Proofs.Wire.Grouping
import BracketQuery.Proofs.Wire.Distinct
import BracketQuery.Proofs.Document.Distinct
import BracketQuery.Proofs.Normalization.Exactness
import BracketQuery.Proofs.Populate.Relations
import BracketQuery.Proofs.Normalization.Candidates
import BracketQuery.Proofs.Filter.Idle
import BracketQuery.Proofs.Populate.Kept
import BracketQuery.Proofs.Document.Omissions
import BracketQuery.Proofs.Url.Encoding
import BracketQuery.Proofs.Url.Query
import BracketQuery.Proofs.Wire.Joining
import BracketQuery.Proofs.Percent.Slices
import BracketQuery.Proofs.Filter.Building
import BracketQuery.Proofs.Binary64.Integers
import BracketQuery.Proofs.Document.Pagination
import BracketQuery.Proofs.Binary64.LargeIntegers
import BracketQuery.Proofs.Document.Leaves
import BracketQuery.Proofs.Document.Integers
import BracketQuery.Proofs.Wire.Pushing
import BracketQuery.Proofs.Wire.Relocation
import BracketQuery.Proofs.Json.Strings
import BracketQuery.Proofs.Text.Trimming
import BracketQuery.Proofs.TypeCodes.Allowlist
import BracketQuery.Proofs.Text.Digits
import BracketQuery.Proofs.Calendar.Gregorian
import BracketQuery.Proofs.Calendar.Reading
import BracketQuery.Proofs.Calendar.Order
import BracketQuery.Proofs.Document.Rearranging
