import PathQuery.Text.Blank
import PathQuery.Text.CharSet
import PathQuery.Text.ByteRange
import PathQuery.Text.Cursor
import PathQuery.Text.WordChar
import PathQuery.Text.LetterCase
import PathQuery.Pattern
import PathQuery.Unicode.Category
import PathQuery.Unicode.Script
import PathQuery.Unicode.Edition
import PathQuery.Unicode.Binary
import PathQuery.Unicode.Segmentation
import PathQuery.Unicode.Lookup
import PathQuery.Regex
import PathQuery.Regex.Reading
import PathQuery.Regex.Escape
import PathQuery.Regex.Bracket
import PathQuery.Regex.Reader
import PathQuery.Regex.Shape
import PathQuery.Regex.Footprint
import PathQuery.Regex.Text
import PathQuery.Number.Integer
import PathQuery.Number.Binary64
import PathQuery.Number.Shortest
import PathQuery.Number.FloatText
import PathQuery.Number.Decimal
import PathQuery.Number.DecimalText
import PathQuery.Time.Calendar
import PathQuery.Time.Instant
import PathQuery.Token.Kind
import PathQuery.Token.Grammar
import PathQuery.Token.Lexeme
import PathQuery.Value.Type
import PathQuery.Conversion
import PathQuery.Text.Search
import PathQuery.Accessor
import PathQuery.Method
import PathQuery.Method.Core
import PathQuery.Method.Date
import PathQuery.Method.Registry
import PathQuery.Evaluation.Environment
import PathQuery.Evaluation.Comparison
import PathQuery.Evaluation
import PathQuery.Engine
import PathQuery.Deferred
import PathQuery.Evaluation.Arithmetic
import PathQuery.Evaluation.Operation
import PathQuery.Evaluation.Path
import PathQuery.Time.Step
import PathQuery.Evaluation.Error
import PathQuery.Fields
import PathQuery.Value
import PathQuery.Value.Text
import PathQuery.Expression
import PathQuery.Expression.Error
import PathQuery.Expression.Part
import PathQuery.Expression.Tiers
import PathQuery.Expression.Analysis
import PathQuery.Settings
import PathQuery.Parser
import PathQuery.TokenList
import PathQuery.Json
import PathQuery.Json.Reader
import PathQuery.Host
import PathQuery.Value.Json
import PathQuery.Time.DateFields
import PathQuery.Time.Layout
import PathQuery.Time.LayoutText
import PathQuery.Time.LayoutReader
import PathQuery.Proofs.Precedence
import PathQuery.Proofs.Precedence.Sweep
import PathQuery.Proofs.Precedence.Folding
import PathQuery.Proofs.Precedence.Resolution
import PathQuery.Proofs.Precedence.Unfolding
import PathQuery.Proofs.Grammar
import PathQuery.Proofs.Analysis.Reading
import PathQuery.Proofs.Analysis.Equations
import PathQuery.Proofs.Analysis.Completeness
import PathQuery.Proofs.Analysis.Surplus
import PathQuery.Proofs.Analysis.Soundness
import PathQuery.Proofs.Interpretation
import PathQuery.Proofs.Acceptance
import PathQuery.Proofs.Leaves
import PathQuery.Proofs.Nesting
import PathQuery.Proofs.Outcome
import PathQuery.Proofs.Route
import PathQuery.Proofs.Route.Agreement
import PathQuery.Proofs.Route.Heights
import PathQuery.Proofs.Route.Tower
import PathQuery.Proofs.Route.Stack
import PathQuery.Proofs.ShortCircuit
import PathQuery.Proofs.Pattern
import PathQuery.Proofs.WellFormed
import PathQuery.Proofs.WellFormed.Names
import PathQuery.Proofs.WellFormed.Analysis
import PathQuery.Proofs.WellFormed.Evaluation
import PathQuery.Proofs.Analysis.Ranges
import PathQuery.Proofs.Enclosure
import PathQuery.Proofs.Joined
import PathQuery.Proofs.Analysis.Steps
import PathQuery.Proofs.Precedence.Context
import PathQuery.Proofs.Pattern.Context
import PathQuery.Proofs.Lexing
import PathQuery.Proofs.Lexing.Context
import PathQuery.Proofs.Words
import PathQuery.Proofs.LetterCase
import PathQuery.Proofs.Lexing.Entries
import PathQuery.Proofs.Lexing.Operators
import PathQuery.Proofs.Lexing.Literals
import PathQuery.Proofs.Lexing.Identifiers
import PathQuery.Proofs.Lexing.Numbers
import PathQuery.Proofs.Legible
import PathQuery.Proofs.RoundTrip
import PathQuery.Proofs.MethodSearch
import PathQuery.Proofs.MethodChoice
import PathQuery.Proofs.AccessorChoice
import PathQuery.Proofs.Lexing.Decimals
import PathQuery.Proofs.Binary64
import PathQuery.Proofs.Decimal
import PathQuery.Proofs.Literals
import PathQuery.Proofs.Members
import PathQuery.Proofs.Reach
import PathQuery.Proofs.Congruence
import PathQuery.Proofs.Laziness
import PathQuery.Proofs.ParserCache
import PathQuery.Proofs.TokenList.Links
import PathQuery.Proofs.TokenList
import PathQuery.Proofs.JsonRoundTrip
import PathQuery.Proofs.Blame.Bare
import PathQuery.Proofs.Blame.Standard
import PathQuery.Proofs.Blame.Operators
import PathQuery.Proofs.Blame.Steps
import PathQuery.Proofs.Blame
import PathQuery.Proofs.Analysis.Terms
import PathQuery.Proofs.Partition
import PathQuery.Proofs.Lexing.Blanks
import PathQuery.Proofs.Subtraction
import PathQuery.Proofs.Pattern.Search
import PathQuery.Proofs.Pattern.Isolation
import PathQuery.Proofs.Lexing.Paths
import PathQuery.Proofs.Lexing.Isolation
import PathQuery.Proofs.Recognition
import PathQuery.Proofs.Slash
import PathQuery.Proofs.Descent
import PathQuery.Proofs.Absence
import PathQuery.Proofs.Composed
import PathQuery.Proofs.Determined
import PathQuery.Proofs.Steady
import PathQuery.Proofs.Memory
import PathQuery.Proofs.Positions
import PathQuery.Proofs.Sifting
import PathQuery.Proofs.Fusion
import PathQuery.Proofs.Conversion
import PathQuery.Proofs.Overloading
import PathQuery.Proofs.Comparison
import PathQuery.Proofs.Integers
import PathQuery.Proofs.Truncation
import PathQuery.Proofs.Commutation
import PathQuery.Proofs.Binding
import PathQuery.Proofs.Calendar
import PathQuery.Proofs.DateRange
import PathQuery.Proofs.Regex.Places
import PathQuery.Proofs.Regex.Spans
import PathQuery.Proofs.Regex.Surroundings
import PathQuery.Proofs.Regex.Readers
import PathQuery.Proofs.Regex.Depth
import PathQuery.Proofs.Regex.Anchors
import PathQuery.Proofs.WholeMatch
import PathQuery.Proofs.TokenList.Cursors
import PathQuery.Proofs.Writing
import PathQuery.Proofs.FloatText
import PathQuery.Proofs.InPlace
