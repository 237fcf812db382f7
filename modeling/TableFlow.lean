import TableFlow.Aggregation
import TableFlow.Binary64.Arithmetic
import TableFlow.Binary64.Basic
import TableFlow.Binary64.Order
import TableFlow.Binary64.Text
import TableFlow.Calendar.Clock
import TableFlow.Calendar.Date
import TableFlow.Calendar.Iso
import TableFlow.Calendar.Iso.Reader
import TableFlow.Calendar.Layouts
import TableFlow.Cell.Basic
import TableFlow.Cell.Coercion
import TableFlow.Cell.Literal
import TableFlow.Columnar.Convert
import TableFlow.Columnar.Table
import TableFlow.Columnar.Type
import TableFlow.CommandLine.Arguments
import TableFlow.CommandLine.Output
import TableFlow.CommandLine.Run
import TableFlow.CommandLine.StageText
import TableFlow.Configuration.Basic
import TableFlow.Configuration.Change
import TableFlow.Configuration.Decode
import TableFlow.Configuration.Encode
import TableFlow.Decimal.Digits
import TableFlow.Decimal.Literal
import TableFlow.Decimal.Scientific
import TableFlow.Decimal.Shortest
import TableFlow.Decimal.Whole
import TableFlow.Delimited.Reader
import TableFlow.Delimited.Records
import TableFlow.Delimited.Values
import TableFlow.Delimited.Writer
import TableFlow.Export.Script
import TableFlow.Export.Sql
import TableFlow.Export.WrappedLiteral
import TableFlow.Filter
import TableFlow.Formula.Column
import TableFlow.Formula.Constant
import TableFlow.Formula.Eval
import TableFlow.Formula.Expr
import TableFlow.Formula.Lexer
import TableFlow.Formula.Parser
import TableFlow.Formula.Running
import TableFlow.Formula.Token
import TableFlow.Formula.Value
import TableFlow.Grouping
import TableFlow.Json.Reader
import TableFlow.Json.Records
import TableFlow.Main
import TableFlow.MergeSort
import TableFlow.Nearest
import TableFlow.Notice
import TableFlow.Pipeline
import TableFlow.Pivot
import TableFlow.Profile
import TableFlow.Proofs.Binary64.Addition
import TableFlow.Proofs.Binary64.Difference
import TableFlow.Proofs.Binary64.Relations
import TableFlow.Proofs.Binary64.Rounding
import TableFlow.Proofs.Calendar.Iso
import TableFlow.Proofs.Cell.Dates
import TableFlow.Proofs.Cell.Empty
import TableFlow.Proofs.Cell.EqualNumbers
import TableFlow.Proofs.Cell.Plain
import TableFlow.Proofs.Cell.SameValue
import TableFlow.Proofs.Cell.Text
import TableFlow.Proofs.Cell.WholeNumbers
import TableFlow.Proofs.Cell.WholeText
import TableFlow.Proofs.CommandLine.Build
import TableFlow.Proofs.CommandLine.Reporting
import TableFlow.Proofs.CommandLine.Result
import TableFlow.Proofs.CommandLine.StageText
import TableFlow.Proofs.Configuration.Additions
import TableFlow.Proofs.Configuration.RoundTrip
import TableFlow.Proofs.Decimal.Numeral
import TableFlow.Proofs.Export.Script
import TableFlow.Proofs.Export.Sql
import TableFlow.Proofs.Filter.Bounds
import TableFlow.Proofs.Filter.Conjunction
import TableFlow.Proofs.Filter.Literal
import TableFlow.Proofs.Filter.Operators
import TableFlow.Proofs.Formula.Bracketed
import TableFlow.Proofs.Formula.Comparison
import TableFlow.Proofs.Formula.Completeness
import TableFlow.Proofs.Formula.Conditional
import TableFlow.Proofs.Formula.Evaluator
import TableFlow.Proofs.Formula.Grammar
import TableFlow.Proofs.Formula.Levels
import TableFlow.Proofs.Formula.Lexemes
import TableFlow.Proofs.Formula.LookAhead
import TableFlow.Proofs.Formula.Parsing
import TableFlow.Proofs.Formula.Printing
import TableFlow.Proofs.Formula.Reads
import TableFlow.Proofs.Formula.RowLocal
import TableFlow.Proofs.Formula.Running
import TableFlow.Proofs.Formula.Soundness
import TableFlow.Proofs.Formula.Spelling
import TableFlow.Proofs.Formula.Tokens
import TableFlow.Proofs.Grouping
import TableFlow.Proofs.Pipeline.Clone
import TableFlow.Proofs.Pipeline.Containment
import TableFlow.Proofs.Pipeline.Described
import TableFlow.Proofs.Pipeline.Edits
import TableFlow.Proofs.Pipeline.Interleaving
import TableFlow.Proofs.Pipeline.Isolation
import TableFlow.Proofs.Pipeline.Schema
import TableFlow.Proofs.Pipeline.SortCycle
import TableFlow.Proofs.Pipeline.View
import TableFlow.Proofs.Pipeline.WellFormed
import TableFlow.Proofs.Pivot.Key
import TableFlow.Proofs.Pivot.Partition
import TableFlow.Proofs.Profile
import TableFlow.Proofs.Reduction.Extremes
import TableFlow.Proofs.Reduction.Order
import TableFlow.Proofs.Reduction.Rank
import TableFlow.Proofs.Row.Columns
import TableFlow.Proofs.Sheet.Names
import TableFlow.Proofs.Sheet.Records
import TableFlow.Proofs.Sheet.RoundTrip
import TableFlow.Proofs.Sort.Comparison
import TableFlow.Proofs.Sort.KeyByKey
import TableFlow.Proofs.Sort.Stable
import TableFlow.Proofs.Stage.Columns
import TableFlow.Proofs.Stage.Counts
import TableFlow.Proofs.Stage.EqualNumbers
import TableFlow.Proofs.Stage.Labels
import TableFlow.Proofs.Stage.Partition
import TableFlow.Proofs.Stage.SingleColumn
import TableFlow.Proofs.Stage.Success
import TableFlow.Proofs.Stage.Summaries
import TableFlow.Proofs.Success
import TableFlow.Proofs.Text.Sigma
import TableFlow.Proofs.Text.Split
import TableFlow.Proofs.TextTable
import TableFlow.Row
import TableFlow.Sheet.Grid
import TableFlow.Sheet.Serial
import TableFlow.Sheet.Table
import TableFlow.Sort
import TableFlow.Source
import TableFlow.Stage
import TableFlow.Text.Case
import TableFlow.Text.Case.Context
import TableFlow.Text.Case.Table
import TableFlow.Text.CharClass
import TableFlow.Text.Lines
import TableFlow.Text.Order
import TableFlow.Text.Printable
import TableFlow.Text.Quoted
import TableFlow.Text.Split
import TableFlow.TextTable
