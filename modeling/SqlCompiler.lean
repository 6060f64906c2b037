import SqlCompiler.Bag
import SqlCompiler.Column
import SqlCompiler.CommandLine.Arguments
import SqlCompiler.CommandLine.Folder
import SqlCompiler.CommandLine.Run
import SqlCompiler.CommandLine.Table
import SqlCompiler.Comparator.Basic
import SqlCompiler.Comparator.Text
import SqlCompiler.Comparison
import SqlCompiler.Compiler.Basic
import SqlCompiler.Compiler.Compile
import SqlCompiler.Compiler.Read
import SqlCompiler.Compiler.Session
import SqlCompiler.Compiler.Write
import SqlCompiler.Condition
import SqlCompiler.Configuration
import SqlCompiler.Dialect
import SqlCompiler.Error
import SqlCompiler.Field
import SqlCompiler.Filter.Basic
import SqlCompiler.Filter.Naming
import SqlCompiler.Filter.Remembered
import SqlCompiler.Filter.Text
import SqlCompiler.Identifier
import SqlCompiler.Json.Basic
import SqlCompiler.Json.Excerpt
import SqlCompiler.Json.Reader
import SqlCompiler.Json.Writer
import SqlCompiler.KeyPolicy
import SqlCompiler.Main
import SqlCompiler.Number.Binary64
import SqlCompiler.Number.Shortest
import SqlCompiler.Number.Word
import SqlCompiler.Operation
import SqlCompiler.Proofs.Bag.Members
import SqlCompiler.Proofs.CommandLine.DialectOption
import SqlCompiler.Proofs.Comparator.Form
import SqlCompiler.Proofs.Compiler.AssignedKeys
import SqlCompiler.Proofs.Compiler.BatchOfOne
import SqlCompiler.Proofs.Compiler.BatchParameters
import SqlCompiler.Proofs.Compiler.BatchRows
import SqlCompiler.Proofs.Compiler.BoundPlaceholders
import SqlCompiler.Proofs.Compiler.ComparedParameters
import SqlCompiler.Proofs.Compiler.InsertedRows
import SqlCompiler.Proofs.Compiler.MergedColumns
import SqlCompiler.Proofs.Compiler.Normalization
import SqlCompiler.Proofs.Compiler.PageColumns
import SqlCompiler.Proofs.Compiler.Pages
import SqlCompiler.Proofs.Compiler.Plan
import SqlCompiler.Proofs.Compiler.RowPlaceholders
import SqlCompiler.Proofs.Compiler.Session
import SqlCompiler.Proofs.Compiler.SharedConfiguration
import SqlCompiler.Proofs.Compiler.Terminators
import SqlCompiler.Proofs.Compiler.UnheededFilters
import SqlCompiler.Proofs.Compiler.UpdateParameters
import SqlCompiler.Proofs.Compiler.Verdicts
import SqlCompiler.Proofs.Compiler.WrittenConditions
import SqlCompiler.Proofs.Condition.Chains
import SqlCompiler.Proofs.Condition.Interpretation
import SqlCompiler.Proofs.Condition.Leaves
import SqlCompiler.Proofs.Condition.Meaning
import SqlCompiler.Proofs.Condition.TextCalls
import SqlCompiler.Proofs.Error.InOrder
import SqlCompiler.Proofs.Filter.Appending
import SqlCompiler.Proofs.Filter.EmptyGroups
import SqlCompiler.Proofs.Filter.Leaves
import SqlCompiler.Proofs.Filter.NameSearch
import SqlCompiler.Proofs.Filter.Naming
import SqlCompiler.Proofs.Filter.OwnNames
import SqlCompiler.Proofs.Filter.ParameterNames
import SqlCompiler.Proofs.Filter.Placeholders
import SqlCompiler.Proofs.Filter.Reading
import SqlCompiler.Proofs.Filter.Remembered
import SqlCompiler.Proofs.Filter.Runs
import SqlCompiler.Proofs.Filter.Tokens
import SqlCompiler.Proofs.Filter.Underscore
import SqlCompiler.Proofs.Filter.UpdateNames
import SqlCompiler.Proofs.Filter.Walks
import SqlCompiler.Proofs.Identifier.ByteScan
import SqlCompiler.Proofs.Identifier.Delimited
import SqlCompiler.Proofs.Identifier.MarkPlaces
import SqlCompiler.Proofs.Identifier.Requoting
import SqlCompiler.Proofs.Identifier.RowNames
import SqlCompiler.Proofs.Identifier.SameIdentifier
import SqlCompiler.Proofs.Identifier.SameName
import SqlCompiler.Proofs.Identifier.Segments
import SqlCompiler.Proofs.Json.Reading
import SqlCompiler.Proofs.Json.Tokens
import SqlCompiler.Proofs.Json.UniqueKeys
import SqlCompiler.Proofs.Number.Finite
import SqlCompiler.Proofs.Placeholder.Bound
import SqlCompiler.Proofs.Placeholder.Filter
import SqlCompiler.Proofs.Placeholder.Fragment
import SqlCompiler.Proofs.Placeholder.Mark
import SqlCompiler.Proofs.Placeholder.Statement
import SqlCompiler.Proofs.Record.Members
import SqlCompiler.Proofs.Record.RoundTrip
import SqlCompiler.Proofs.RequestFile.Entries
import SqlCompiler.Proofs.RequestFile.ListedParameters
import SqlCompiler.Proofs.SearchCondition.Grammar
import SqlCompiler.Proofs.SearchCondition.Pattern
import SqlCompiler.Proofs.SearchCondition.Truth
import SqlCompiler.Proofs.Statement.Parts
import SqlCompiler.Proofs.Statement.Spacing
import SqlCompiler.Proofs.Text.Keyword
import SqlCompiler.Proofs.Text.LowLine
import SqlCompiler.Proofs.Text.Numbers
import SqlCompiler.Proofs.Text.Slices
import SqlCompiler.Proofs.Text.Trimming
import SqlCompiler.Proofs.Trace.Truncation
import SqlCompiler.Proofs.Value.Decoding
import SqlCompiler.Record.Basic
import SqlCompiler.Record.Field
import SqlCompiler.Record.Keyword
import SqlCompiler.Record.Layout
import SqlCompiler.Record.Setting
import SqlCompiler.Request
import SqlCompiler.RequestFile.Basic
import SqlCompiler.RequestFile.Compile
import SqlCompiler.RequestFile.Failure
import SqlCompiler.Setting
import SqlCompiler.SqlType
import SqlCompiler.Statement.Basic
import SqlCompiler.Statement.Clause
import SqlCompiler.Statement.Words
import SqlCompiler.StatementText
import SqlCompiler.Text.Alphanumeric
import SqlCompiler.Text.Keyword
import SqlCompiler.Text.Replace
import SqlCompiler.Text.WhiteSpace
import SqlCompiler.Toml.DateTime
import SqlCompiler.Toml.Quoted
import SqlCompiler.Toml.Reader
import SqlCompiler.Toml.Scalar
import SqlCompiler.Toml.Table
import SqlCompiler.Trace
import SqlCompiler.Value.Basic
import SqlCompiler.Value.DateTime
import SqlCompiler.Value.Json
import SqlCompiler.Value.Uuid
