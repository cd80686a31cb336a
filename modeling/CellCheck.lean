import CellCheck.Main
import CellCheck.Table.Edit
import CellCheck.Proofs.Grammar.Basic
import CellCheck.Proofs.Grammar.Readers
import CellCheck.Proofs.Grammar.Soundness
import CellCheck.Proofs.Grammar.Completeness
import CellCheck.Proofs.Grammar.Cells
import CellCheck.Proofs.Lexing.Characters
import CellCheck.Proofs.Lexing.Literals
import CellCheck.Proofs.Lexing.Tokens
import CellCheck.Proofs.Number.Decimal
import CellCheck.Proofs.Number.Shortest
import CellCheck.Proofs.DateTime
import CellCheck.Proofs.Lexing.Symbols
import CellCheck.Proofs.Lexing.WellFormed
import CellCheck.Proofs.Printing.Written
import CellCheck.Proofs.Printing.Tokens
import CellCheck.Proofs.Printing.RoundTrip
import CellCheck.Proofs.Subsumption.Basic
import CellCheck.Proofs.Subsumption.Meaning
import CellCheck.Proofs.Validation.Shadowing
import CellCheck.Proofs.Number.Order
import CellCheck.Proofs.Number.Distance
import CellCheck.Proofs.Subsumption.Inclusion
import CellCheck.Proofs.Expr.Subtrees
import CellCheck.Proofs.Typing.Uniform
import CellCheck.Proofs.Subsumption.Order
import CellCheck.Proofs.Printing.Denoted
import CellCheck.Proofs.Validation.Removal
import CellCheck.Proofs.Subsumption.Unanswered
import CellCheck.Proofs.Subsumption.Tolerance
import CellCheck.Proofs.Subsumption.Types
import CellCheck.Proofs.Validation.Selection
import CellCheck.Proofs.Validation.Rejections
import CellCheck.Proofs.Validation.Locality
import CellCheck.Proofs.Validation.Members
import CellCheck.Proofs.Lexing.Requests
import CellCheck.Proofs.Lexing.Blank
import CellCheck.Proofs.Validation.Scope
import CellCheck.Proofs.CommandLine.Check
import CellCheck.Proofs.Reading.Failures
import CellCheck.Proofs.Reading.Calls
import CellCheck.Proofs.Validation.Reports
import CellCheck.Proofs.Lexing.Extent
import CellCheck.Proofs.Lexing.Layout
import CellCheck.Proofs.Reading.Spacing
import CellCheck.Proofs.Expr.Alternatives
import CellCheck.Proofs.Typing.Alternatives
import CellCheck.Proofs.Typing.FirstError
import CellCheck.Proofs.Reading.Composition
import CellCheck.Proofs.Reading.Anchors
import CellCheck.Proofs.Typing.Substitution
import CellCheck.Proofs.Subsumption.Comparability
import CellCheck.Proofs.Subsumption.Coarsening
import CellCheck.Proofs.Validation.Widening
import CellCheck.Proofs.Validation.Extension
import CellCheck.Proofs.Reading.Refusals
import CellCheck.Proofs.Reading.Integers
