import Rulebook.Comparison.Comparator
import Rulebook.Comparison.Data
import Rulebook.Comparison.Operand
import Rulebook.Config.Environment
import Rulebook.Config.Field
import Rulebook.Config.Loader
import Rulebook.Config.Merge
import Rulebook.Config.Model
import Rulebook.Config.Offence
import Rulebook.Config.Source
import Rulebook.Expression.Build
import Rulebook.Expression.Direct
import Rulebook.Expression.Evaluate
import Rulebook.Expression.Grammar
import Rulebook.Expression.Grammar.Faults
import Rulebook.Expression.Grammar.Operands
import Rulebook.Expression.Grammar.Patterns
import Rulebook.Expression.Grammar.Statements
import Rulebook.Expression.Lexer
import Rulebook.Expression.Literal
import Rulebook.Expression.Node
import Rulebook.Expression.Phrase
import Rulebook.Expression.Reader
import Rulebook.Expression.Token
import Rulebook.Fault
import Rulebook.Host.Basic
import Rulebook.Host.Files
import Rulebook.Host.Path
import Rulebook.Json.Reader
import Rulebook.Json.Writer
import Rulebook.Log.Call
import Rulebook.Log.Event
import Rulebook.Log.Line
import Rulebook.Log.Redaction
import Rulebook.Log.Traced
import Rulebook.Number.Decimal
import Rulebook.Number.Double
import Rulebook.Number.Integer
import Rulebook.Number.Places
import Rulebook.Number.Real
import Rulebook.Pattern.CharTest
import Rulebook.Pattern.Program
import Rulebook.Pattern.Reader
import Rulebook.Pattern.Search
import Rulebook.Pattern.Syntax
import Rulebook.Pattern.Width
import Rulebook.Proofs.Comparison.Caught
import Rulebook.Proofs.Comparison.Conversion
import Rulebook.Proofs.Comparison.Denotation
import Rulebook.Proofs.Comparison.Failure
import Rulebook.Proofs.Comparison.Lexical
import Rulebook.Proofs.Comparison.NumberText
import Rulebook.Proofs.Comparison.Numeric
import Rulebook.Proofs.Comparison.Policy
import Rulebook.Proofs.Comparison.Relation
import Rulebook.Proofs.Comparison.Shown
import Rulebook.Proofs.Config.Algebra
import Rulebook.Proofs.Config.Environment
import Rulebook.Proofs.Config.Layers
import Rulebook.Proofs.Config.Leaf
import Rulebook.Proofs.Config.Merge
import Rulebook.Proofs.Config.Path
import Rulebook.Proofs.Config.Reading
import Rulebook.Proofs.Config.Shape
import Rulebook.Proofs.Expression.Absence
import Rulebook.Proofs.Expression.Direct
import Rulebook.Proofs.Expression.Evaluation
import Rulebook.Proofs.Expression.Literal
import Rulebook.Proofs.Expression.Number
import Rulebook.Proofs.Expression.Numeral
import Rulebook.Proofs.Expression.Operand
import Rulebook.Proofs.Expression.Quotation
import Rulebook.Proofs.Expression.Reading
import Rulebook.Proofs.Expression.Sentence
import Rulebook.Proofs.Leniency.Absence
import Rulebook.Proofs.Leniency.Access
import Rulebook.Proofs.Leniency.Call
import Rulebook.Proofs.Leniency.Constant
import Rulebook.Proofs.Leniency.Equality
import Rulebook.Proofs.Leniency.Filter
import Rulebook.Proofs.Leniency.Follows
import Rulebook.Proofs.Leniency.Foreseen
import Rulebook.Proofs.Leniency.Format
import Rulebook.Proofs.Leniency.Method
import Rulebook.Proofs.Leniency.Operation
import Rulebook.Proofs.Leniency.Paired
import Rulebook.Proofs.Leniency.Rendering
import Rulebook.Proofs.Leniency.Step
import Rulebook.Proofs.Leniency.Value
import Rulebook.Proofs.Log.Emission
import Rulebook.Proofs.Log.Masking
import Rulebook.Proofs.Log.Redaction
import Rulebook.Proofs.Log.Traced
import Rulebook.Proofs.Number.Decimal
import Rulebook.Proofs.Number.Order
import Rulebook.Proofs.Number.Rounding
import Rulebook.Proofs.Outcome
import Rulebook.Proofs.Pattern.Class
import Rulebook.Proofs.Pattern.Parts
import Rulebook.Proofs.Pattern.Reading
import Rulebook.Proofs.Pattern.Sequence
import Rulebook.Proofs.Pattern.Substitution
import Rulebook.Proofs.Rule.Concatenation
import Rulebook.Proofs.Rule.Dependence
import Rulebook.Proofs.Rule.Escape
import Rulebook.Proofs.Rule.Evaluation
import Rulebook.Proofs.Rule.Grammar
import Rulebook.Proofs.Rule.Leniency
import Rulebook.Proofs.Rule.Names
import Rulebook.Proofs.Rule.Numbers
import Rulebook.Proofs.Rule.Offence
import Rulebook.Proofs.Rule.Pairs
import Rulebook.Proofs.Rule.PatternSafety
import Rulebook.Proofs.Rule.PlainNames
import Rulebook.Proofs.Rule.Reached
import Rulebook.Proofs.Rule.Reader
import Rulebook.Proofs.Rule.SingleComparison
import Rulebook.Proofs.Rule.Trace
import Rulebook.Proofs.Rule.Validation
import Rulebook.Proofs.Rule.Variables
import Rulebook.Proofs.Session.Cache
import Rulebook.Proofs.Session.Logging
import Rulebook.Proofs.Session.Step
import Rulebook.Proofs.Template.Agreement
import Rulebook.Proofs.Template.Alike
import Rulebook.Proofs.Template.CallFault
import Rulebook.Proofs.Template.Dotted
import Rulebook.Proofs.Template.Interpolation
import Rulebook.Proofs.Template.Nested
import Rulebook.Proofs.Template.Outline
import Rulebook.Proofs.Template.Outside
import Rulebook.Proofs.Template.Placeholder
import Rulebook.Proofs.Template.PlainName
import Rulebook.Proofs.Template.Property
import Rulebook.Proofs.Template.Reference
import Rulebook.Proofs.Template.Rendering
import Rulebook.Proofs.Template.Rewriting
import Rulebook.Proofs.Template.ValueFault
import Rulebook.Proofs.Text.Digits
import Rulebook.Proofs.Text.Escaping
import Rulebook.Proofs.Text.Order
import Rulebook.Proofs.Text.Quoted
import Rulebook.Proofs.Text.Run
import Rulebook.Proofs.Value.Data
import Rulebook.Proofs.Value.Display
import Rulebook.Proofs.Value.Entries
import Rulebook.Proofs.Value.Path
import Rulebook.Proofs.Value.Tree
import Rulebook.Rule.Basic
import Rulebook.Rule.Error
import Rulebook.Rule.Evaluator
import Rulebook.Rule.Operator
import Rulebook.Rule.Reader
import Rulebook.Session.Basic
import Rulebook.Session.Evaluation
import Rulebook.Session.Logging
import Rulebook.Session.Settings
import Rulebook.Template.Access
import Rulebook.Template.Arithmetic
import Rulebook.Template.Constant
import Rulebook.Template.Filter
import Rulebook.Template.Format
import Rulebook.Template.Interpolation
import Rulebook.Template.Lexer
import Rulebook.Template.Mention
import Rulebook.Template.Method
import Rulebook.Template.Names
import Rulebook.Template.Number
import Rulebook.Template.Offer
import Rulebook.Template.Placeholder
import Rulebook.Template.Prepared
import Rulebook.Template.Program
import Rulebook.Template.Property
import Rulebook.Template.Reader
import Rulebook.Template.Render
import Rulebook.Template.Signature
import Rulebook.Template.Syntax
import Rulebook.Template.Test
import Rulebook.Template.Token
import Rulebook.Text.Basic
import Rulebook.Text.Case
import Rulebook.Text.CaseVariants
import Rulebook.Text.CharacterName
import Rulebook.Text.Digit
import Rulebook.Text.Escape
import Rulebook.Text.Identifier
import Rulebook.Text.Letter
import Rulebook.Text.Part
import Rulebook.Text.Printable
import Rulebook.Text.Quoted
import Rulebook.Text.RangeTable
import Rulebook.Text.Utf8
import Rulebook.Text.Word
import Rulebook.Toml.Document
import Rulebook.Toml.Reader
import Rulebook.Toml.Scalar
import Rulebook.Value.Basic
import Rulebook.Value.Equality
import Rulebook.Value.Printer
