import Inquiry.Catalog.Basic
import Inquiry.Catalog.Contract
import Inquiry.Catalog.Description
import Inquiry.Catalog.Metadata
import Inquiry.Compiler
import Inquiry.Decimal.Binary
import Inquiry.Decimal.Fixed
import Inquiry.Decimal.Integer
import Inquiry.Decimal.Shortest
import Inquiry.Evaluation.Report
import Inquiry.Evaluation.Run
import Inquiry.Evaluation.Samples
import Inquiry.Evaluation.Verdict
import Inquiry.Explanation
import Inquiry.Extraction
import Inquiry.Fault
import Inquiry.Intent
import Inquiry.Json.Parser
import Inquiry.Json.Printer
import Inquiry.Kind
import Inquiry.Main
import Inquiry.Pattern.Basic
import Inquiry.Pattern.Bracket
import Inquiry.Pattern.Cursor
import Inquiry.Pattern.Escape
import Inquiry.Pattern.Fragment
import Inquiry.Pattern.Group
import Inquiry.Pattern.Matcher
import Inquiry.Pattern.ParseError
import Inquiry.Pattern.Parser
import Inquiry.Pattern.Part
import Inquiry.Proofs.Catalog.Contract
import Inquiry.Proofs.Catalog.Coverage
import Inquiry.Proofs.Catalog.Demand
import Inquiry.Proofs.Catalog.Lookup
import Inquiry.Proofs.Catalog.Presentation
import Inquiry.Proofs.Catalog.RoundTrip
import Inquiry.Proofs.Catalog.Shape
import Inquiry.Proofs.Compiler.Account
import Inquiry.Proofs.Compiler.Agreement
import Inquiry.Proofs.Compiler.Answer
import Inquiry.Proofs.Compiler.Entry
import Inquiry.Proofs.Compiler.Filters
import Inquiry.Proofs.Compiler.NonInterference
import Inquiry.Proofs.Compiler.Outcome
import Inquiry.Proofs.Compiler.Overrides
import Inquiry.Proofs.Compiler.Run
import Inquiry.Proofs.Compiler.Trail
import Inquiry.Proofs.Decimal.Integer
import Inquiry.Proofs.Decimal.Overlong
import Inquiry.Proofs.Evaluation.Agreement
import Inquiry.Proofs.Evaluation.Lines
import Inquiry.Proofs.Evaluation.Questions
import Inquiry.Proofs.Evaluation.Report
import Inquiry.Proofs.Evaluation.Table
import Inquiry.Proofs.Evaluation.Verdict
import Inquiry.Proofs.Explanation
import Inquiry.Proofs.Extraction
import Inquiry.Proofs.Extraction.Asked
import Inquiry.Proofs.Extraction.Composed
import Inquiry.Proofs.Extraction.Limit
import Inquiry.Proofs.Extraction.Mention
import Inquiry.Proofs.Extraction.Window
import Inquiry.Proofs.Json.Beginning
import Inquiry.Proofs.Json.Grammar
import Inquiry.Proofs.Json.Scalar
import Inquiry.Proofs.Json.Writable
import Inquiry.Proofs.Outcome
import Inquiry.Proofs.Pattern.Greedy
import Inquiry.Proofs.Pattern.Matcher
import Inquiry.Proofs.Pattern.Number
import Inquiry.Proofs.Pattern.Piece
import Inquiry.Proofs.Request
import Inquiry.Proofs.Safety.Assembled
import Inquiry.Proofs.Safety.Bundled
import Inquiry.Proofs.Safety.Findings
import Inquiry.Proofs.Safety.Keyword
import Inquiry.Proofs.Safety.LimitReadings
import Inquiry.Proofs.Safety.Mentions
import Inquiry.Proofs.Safety.Numbering
import Inquiry.Proofs.Safety.Phrases
import Inquiry.Proofs.Safety.Quiet
import Inquiry.Proofs.Safety.RowLimit
import Inquiry.Proofs.Safety.Selection
import Inquiry.Proofs.Safety.Table
import Inquiry.Proofs.Safety.Totality
import Inquiry.Proofs.Safety.Verdict
import Inquiry.Proofs.Statement.Alphabet
import Inquiry.Proofs.Statement.Clauses
import Inquiry.Proofs.Statement.Conjuncts
import Inquiry.Proofs.Statement.Layout
import Inquiry.Proofs.Statement.Lines
import Inquiry.Proofs.Statement.Marks
import Inquiry.Proofs.Statement.Names
import Inquiry.Proofs.Statement.Nesting
import Inquiry.Proofs.Statement.Piecewise
import Inquiry.Proofs.Statement.Placeholders
import Inquiry.Proofs.Statement.References
import Inquiry.Proofs.Statement.Resolution
import Inquiry.Proofs.Statement.Styles
import Inquiry.Proofs.Statement.Tests
import Inquiry.Proofs.Tag
import Inquiry.Proofs.Text.Basic
import Inquiry.Proofs.Text.Case
import Inquiry.Proofs.Text.Component
import Inquiry.Proofs.Text.Lines
import Inquiry.Proofs.Text.Number
import Inquiry.Proofs.Text.Pieces
import Inquiry.Proofs.Text.Runs
import Inquiry.Proofs.Text.Spelling
import Inquiry.Proofs.Text.Split
import Inquiry.Proofs.Text.Stripped
import Inquiry.Proofs.Text.Unbroken
import Inquiry.Proofs.Validation.Basic
import Inquiry.Proofs.Value.Plain
import Inquiry.Proofs.Value.Shape
import Inquiry.Proofs.Value.Writable
import Inquiry.Proofs.Vocabulary.Literal
import Inquiry.Proofs.Vocabulary.Representation
import Inquiry.Proofs.Vocabulary.Shape
import Inquiry.Proofs.Vocabulary.WellFormed
import Inquiry.Request
import Inquiry.Safety.Gate
import Inquiry.Safety.Keyword
import Inquiry.Safety.Placeholder
import Inquiry.Safety.Violation
import Inquiry.Settings
import Inquiry.Statement.Assembly
import Inquiry.Statement.Basic
import Inquiry.Tag
import Inquiry.Text.Basic
import Inquiry.Text.Blank
import Inquiry.Text.Case
import Inquiry.Text.CaseTable
import Inquiry.Text.Digit
import Inquiry.Text.Name
import Inquiry.Text.Printable
import Inquiry.Text.Quoted
import Inquiry.Text.Spans
import Inquiry.Text.Variant
import Inquiry.Text.Word
import Inquiry.Validation.Basic
import Inquiry.Validation.Scalar
import Inquiry.Value.Basic
import Inquiry.Value.Display
import Inquiry.Vocabulary.Basic
import Inquiry.Vocabulary.Bundled
import Inquiry.Vocabulary.File
import Inquiry.Vocabulary.Flaw
import Inquiry.Vocabulary.Reader
import Inquiry.Yaml.Block
import Inquiry.Yaml.Cursor
import Inquiry.Yaml.Document
import Inquiry.Yaml.Node
import Inquiry.Yaml.Plain
import Inquiry.Yaml.Quoted
import Inquiry.Yaml.Scalar
import Inquiry.Yaml.Tag
import Inquiry.Yaml.Token
import Inquiry.Yaml.Tokens
