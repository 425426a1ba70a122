import Eisen.Catalog.Basic
import Eisen.Catalog.Extensions
import Eisen.Catalog.Report
import Eisen.Catalog.Scan
import Eisen.Catalog.Validation
import Eisen.Command.Arguments
import Eisen.Command.Catalog
import Eisen.Command.Convert
import Eisen.Command.Ending
import Eisen.Command.Log
import Eisen.Conversion.Basic
import Eisen.Conversion.Files
import Eisen.Description.Basic
import Eisen.Description.Files
import Eisen.Description.Reading
import Eisen.Description.Schema
import Eisen.Discrepancy
import Eisen.Json.Basic
import Eisen.Json.Fault
import Eisen.Json.Number
import Eisen.Json.Reader
import Eisen.Json.Token
import Eisen.Json.Writer
import Eisen.Main
import Eisen.Number.Binary64
import Eisen.Number.Decimal
import Eisen.Number.Shortest
import Eisen.Numeral
import Eisen.Pattern.Basic
import Eisen.Pattern.CharacterSet
import Eisen.Pattern.Expression.Class
import Eisen.Pattern.Expression.Cursor
import Eisen.Pattern.Expression.Escape
import Eisen.Pattern.Expression.Fault
import Eisen.Pattern.Expression.Meaning
import Eisen.Pattern.Expression.Reader
import Eisen.Pattern.Expression.Tree
import Eisen.Pattern.Extended.Assembly
import Eisen.Pattern.Extended.Machine
import Eisen.Pattern.Extended.Reader
import Eisen.Pattern.Extended.Tree
import Eisen.Pattern.Form
import Eisen.Pattern.Property
import Eisen.Pattern.Regular
import Eisen.Pattern.Size
import Eisen.Proofs.Catalog.Halves
import Eisen.Proofs.Catalog.Scan
import Eisen.Proofs.Catalog.StatusLines
import Eisen.Proofs.Conversion.Collection
import Eisen.Proofs.Conversion.Effects
import Eisen.Proofs.Conversion.Outputs
import Eisen.Proofs.Conversion.Pairing
import Eisen.Proofs.Conversion.RoundTrip
import Eisen.Proofs.Conversion.Runs
import Eisen.Proofs.Conversion.Scripts
import Eisen.Proofs.Description.Acceptance
import Eisen.Proofs.Description.Agreement
import Eisen.Proofs.Description.Contents
import Eisen.Proofs.Description.Embedding
import Eisen.Proofs.Description.Patterns
import Eisen.Proofs.Description.Shapes
import Eisen.Proofs.Description.Wording
import Eisen.Proofs.Json.Lexemes
import Eisen.Proofs.Json.Numbers
import Eisen.Proofs.Json.RoundTrip
import Eisen.Proofs.Json.Sorted
import Eisen.Proofs.Number.Equality
import Eisen.Proofs.Number.Numeral
import Eisen.Proofs.Number.Rounding
import Eisen.Proofs.Number.Shortest
import Eisen.Proofs.Pattern.Occurrence
import Eisen.Proofs.RuleSet.Conformance
import Eisen.Proofs.RuleSet.Dangling
import Eisen.Proofs.RuleSet.Edits
import Eisen.Proofs.RuleSet.Markup
import Eisen.Proofs.RuleSet.Names
import Eisen.Proofs.RuleSet.Numbering
import Eisen.Proofs.RuleSet.Parameters
import Eisen.Proofs.RuleSet.References
import Eisen.Proofs.RuleSet.Rereading
import Eisen.Proofs.RuleSet.Signatures
import Eisen.Proofs.RuleSet.Transforms
import Eisen.Proofs.RuleSet.Unrolling
import Eisen.Proofs.RuleSet.Wording
import Eisen.Proofs.Schema.Acceptance
import Eisen.Proofs.Schema.Wording
import Eisen.Proofs.Script.Covering
import Eisen.Proofs.Script.Layout
import Eisen.Proofs.Script.Phrases
import Eisen.Proofs.Script.Reaching
import Eisen.Proofs.Script.Reading
import Eisen.Proofs.Script.Rows
import Eisen.Proofs.Script.Settings
import Eisen.Proofs.Script.Spelling
import Eisen.Proofs.Script.Verdicts
import Eisen.Proofs.Script.Wording
import Eisen.Proofs.Script.Writing
import Eisen.Proofs.Storage.Changes
import Eisen.Proofs.Storage.Components
import Eisen.Proofs.Storage.Descent
import Eisen.Proofs.Storage.Path
import Eisen.Proofs.Storage.Resolution
import Eisen.Proofs.Storage.Tree
import Eisen.Proofs.Text.Lines
import Eisen.Proofs.Text.Order
import Eisen.Proofs.Text.Words
import Eisen.RuleSet.Basic
import Eisen.RuleSet.Comparison
import Eisen.RuleSet.Decoding
import Eisen.RuleSet.Encoding
import Eisen.RuleSet.Markup
import Eisen.RuleSet.Unrolling
import Eisen.Schema.Basic
import Eisen.Schema.Loading
import Eisen.Schema.Meta
import Eisen.Schema.Reference
import Eisen.Script.Fault
import Eisen.Script.Grammar
import Eisen.Script.Scan
import Eisen.Script.Token
import Eisen.Script.Tree
import Eisen.Storage.Directories
import Eisen.Storage.Fault
import Eisen.Storage.FileSystem
import Eisen.Storage.Path
import Eisen.Storage.Walk
import Eisen.Text.Ascii
import Eisen.Text.Blank
import Eisen.Text.Boundary
import Eisen.Text.ByteRange
import Eisen.Text.CaseFolding
import Eisen.Text.Category
import Eisen.Text.Edition
import Eisen.Text.Escaped
import Eisen.Text.Order
import Eisen.Text.Percent
import Eisen.Text.Property
import Eisen.Text.Quoted
import Eisen.Text.Ranges
import Eisen.Text.SharedCharacter
import Eisen.Text.Symbol
import Eisen.Text.Visible
import Eisen.Text.WritingSystem
