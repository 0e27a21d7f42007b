import RecordFilter.Arithmetic
import RecordFilter.Calendar.Basic
import RecordFilter.Calendar.Pattern
import RecordFilter.Calendar.Reader
import RecordFilter.Calendar.Text
import RecordFilter.Column
import RecordFilter.CommandLine.Arguments
import RecordFilter.CommandLine.Report
import RecordFilter.Comparison
import RecordFilter.Config
import RecordFilter.Decimal.Layout
import RecordFilter.Decimal.Reading
import RecordFilter.Expr.Basic
import RecordFilter.Expr.ParseError
import RecordFilter.Expr.Parser
import RecordFilter.Expr.Printer
import RecordFilter.Filter
import RecordFilter.FilterText
import RecordFilter.Group.Basic
import RecordFilter.Group.Flatten
import RecordFilter.Group.Rebuild
import RecordFilter.Json.Basic
import RecordFilter.Json.Decoding
import RecordFilter.Json.Encoding
import RecordFilter.Json.Number
import RecordFilter.Json.Printer
import RecordFilter.Json.Reader
import RecordFilter.Main
import RecordFilter.Proofs.Arithmetic.Composition
import RecordFilter.Proofs.Arithmetic.Exactness
import RecordFilter.Proofs.Arithmetic.Stack
import RecordFilter.Proofs.Calendar.Days
import RecordFilter.Proofs.Calendar.Fields
import RecordFilter.Proofs.Calendar.Layout
import RecordFilter.Proofs.Calendar.Marks
import RecordFilter.Proofs.Calendar.RoundTrip
import RecordFilter.Proofs.Comparison.Instants
import RecordFilter.Proofs.Comparison.Laws
import RecordFilter.Proofs.DateText.Formats
import RecordFilter.Proofs.DateText.Layouts
import RecordFilter.Proofs.DateText.Quotes
import RecordFilter.Proofs.Decimal.Layout
import RecordFilter.Proofs.Decimal.Order
import RecordFilter.Proofs.Except
import RecordFilter.Proofs.Expr.Constants
import RecordFilter.Proofs.Expr.Names
import RecordFilter.Proofs.Expr.Operands
import RecordFilter.Proofs.Expr.Parts
import RecordFilter.Proofs.Expr.Precedence
import RecordFilter.Proofs.Expr.Primaries
import RecordFilter.Proofs.Expr.Printing
import RecordFilter.Proofs.Expr.RoundTrip
import RecordFilter.Proofs.Expr.Signs
import RecordFilter.Proofs.Filter.Chains
import RecordFilter.Proofs.Filter.Creation
import RecordFilter.Proofs.Filter.Dependence
import RecordFilter.Proofs.Filter.Meaning
import RecordFilter.Proofs.Filter.Rendering
import RecordFilter.Proofs.Grammar.Basic
import RecordFilter.Proofs.Grammar.Blame
import RecordFilter.Proofs.Grammar.Calls
import RecordFilter.Proofs.Grammar.Completeness
import RecordFilter.Proofs.Grammar.Joiners
import RecordFilter.Proofs.Grammar.Progress
import RecordFilter.Proofs.Grammar.Soundness
import RecordFilter.Proofs.Grammar.Steps
import RecordFilter.Proofs.Grammar.Subselects
import RecordFilter.Proofs.Grammar.Text
import RecordFilter.Proofs.Group.Chain
import RecordFilter.Proofs.Group.Links
import RecordFilter.Proofs.Group.Printing
import RecordFilter.Proofs.Group.Rebuild
import RecordFilter.Proofs.Group.Spine
import RecordFilter.Proofs.Predicate.Algebra
import RecordFilter.Proofs.Predicate.Creation
import RecordFilter.Proofs.Predicate.Like
import RecordFilter.Proofs.Predicate.Negation
import RecordFilter.Proofs.Term.Bounds
import RecordFilter.Proofs.Term.Supported
import RecordFilter.Proofs.Text.Uppercase
import RecordFilter.Proofs.Token.Classes
import RecordFilter.Proofs.Token.Lexes
import RecordFilter.Proofs.Token.Separators
import RecordFilter.Proofs.Wildcard.Matching
import RecordFilter.Proofs.Wildcard.Regex
import RecordFilter.Text.CaseFold
import RecordFilter.Token.Scanner
import RecordFilter.Wildcard
