import LabelFilter.About
import LabelFilter.Aggregation
import LabelFilter.Command.Choices
import LabelFilter.Command.Environment
import LabelFilter.Command.EnvironmentFile
import LabelFilter.Command.Grammar
import LabelFilter.Command.Invocation
import LabelFilter.Command.Program
import LabelFilter.Command.Usage
import LabelFilter.Decimal.Binary
import LabelFilter.Decimal.Shortest
import LabelFilter.Files.Input
import LabelFilter.Files.Path
import LabelFilter.Files.Tree
import LabelFilter.Filter.Body
import LabelFilter.Filter.Compiler
import LabelFilter.Filter.Condition
import LabelFilter.Filter.Item
import LabelFilter.Filter.Operator
import LabelFilter.Filter.Predicate
import LabelFilter.Filter.Reading
import LabelFilter.Filter.Request
import LabelFilter.Filter.Rule
import LabelFilter.Filter.SubQuery
import LabelFilter.Http.Address
import LabelFilter.Http.Exchange
import LabelFilter.Http.Origin
import LabelFilter.Http.Service
import LabelFilter.Json.Decode
import LabelFilter.Json.Document
import LabelFilter.Json.Fault
import LabelFilter.Json.Lexeme
import LabelFilter.Json.Number
import LabelFilter.Json.Octet
import LabelFilter.Json.Token
import LabelFilter.Json.Value
import LabelFilter.Json.Writing
import LabelFilter.Main
import LabelFilter.Proofs.Filter.Body
import LabelFilter.Proofs.Filter.Document
import LabelFilter.Proofs.Filter.Expression
import LabelFilter.Proofs.Filter.Faults
import LabelFilter.Proofs.Filter.Layout
import LabelFilter.Proofs.Filter.Meaning
import LabelFilter.Proofs.Filter.Readability
import LabelFilter.Proofs.Filter.Reading
import LabelFilter.Proofs.Filter.Request
import LabelFilter.Proofs.Filter.Skeleton
import LabelFilter.Proofs.Filter.Stated
import LabelFilter.Proofs.Http.Agreement
import LabelFilter.Proofs.Http.Delivery
import LabelFilter.Proofs.Http.Verdict
import LabelFilter.Proofs.Json.Composite
import LabelFilter.Proofs.Json.Depth
import LabelFilter.Proofs.Json.Document
import LabelFilter.Proofs.Json.Exact
import LabelFilter.Proofs.Json.Grammar
import LabelFilter.Proofs.Json.Lexeme
import LabelFilter.Proofs.Json.Literal
import LabelFilter.Proofs.Json.Octets
import LabelFilter.Proofs.Json.Record
import LabelFilter.Proofs.Json.StringText
import LabelFilter.Proofs.Json.Token
import LabelFilter.Proofs.Json.Written
import LabelFilter.Proofs.Rows
import LabelFilter.Proofs.Settings.Layering
import LabelFilter.Proofs.Settings.Rules
import LabelFilter.Proofs.Settings.Section
import LabelFilter.Proofs.Sql.Evaluation
import LabelFilter.Proofs.Sql.Expression
import LabelFilter.Proofs.Sql.Quotation
import LabelFilter.Proofs.Sql.Skeleton
import LabelFilter.Proofs.Sql.Token
import LabelFilter.Settings.Layer
import LabelFilter.Settings.Loading
import LabelFilter.Settings.Reading
import LabelFilter.Settings.Resolution
import LabelFilter.Shutdown
import LabelFilter.Shutdown.Channel
import LabelFilter.Sql.Dialect
import LabelFilter.Sql.Identifier
import LabelFilter.Sql.Literal
import LabelFilter.Text.Alphanumeric
import LabelFilter.Text.Blank
import LabelFilter.Text.Hidden
import LabelFilter.Text.Letters
import LabelFilter.Text.Numeral
import LabelFilter.Text.Quoted
import LabelFilter.Proofs.Shutdown.History
import LabelFilter.Proofs.Shutdown.Signal
import LabelFilter.Proofs.Http.Origins
import LabelFilter.Filter.Writing
import LabelFilter.Proofs.Filter.RoundTrip
import LabelFilter.Proofs.Filter.SubQuery
import LabelFilter.Proofs.Filter.Implied
import LabelFilter.Proofs.Filter.Exclusion
import LabelFilter.Proofs.Filter.ClientTexts
import LabelFilter.Proofs.Filter.ClientNames
import LabelFilter.Proofs.Filter.Arity
import LabelFilter.Proofs.Filter.Vocabulary
import LabelFilter.Proofs.Sql.Path
import LabelFilter.Proofs.Text.Spelling
import LabelFilter.Proofs.Json.Kept
import LabelFilter.Proofs.Filter.RuleDocument
import LabelFilter.Proofs.Files.Expansion
import LabelFilter.Proofs.Settings.Sources
import LabelFilter.Proofs.Text.Lowercase
import LabelFilter.Proofs.Command.DialectWord
import LabelFilter.Proofs.Http.Address
import LabelFilter.Proofs.Http.OwnOrigin
import LabelFilter.Proofs.Sql.Names
import LabelFilter.Proofs.Filter.GroupColumns
