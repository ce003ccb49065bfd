import TruthTable.Formula.Fold
import TruthTable.Formula.Grammar
import TruthTable.Journal
import TruthTable.Main
import TruthTable.Proofs.Reading
import TruthTable.Proofs.WellFormed
import TruthTable.Proofs.Conversion
import TruthTable.Proofs.Label
import TruthTable.Proofs.Columns
import TruthTable.Proofs.Lexer
import TruthTable.Proofs.Row
import TruthTable.Proofs.Table
import TruthTable.Proofs.Verdict
import TruthTable.Proofs.RoundTrip
import TruthTable.Proofs.Agreement
import TruthTable.Proofs.Substitution
import TruthTable.Proofs.Rearrangement
import TruthTable.Proofs.Completion
import TruthTable.Proofs.Answer
import TruthTable.Proofs.Layout
import TruthTable.Proofs.Report
import TruthTable.Proofs.Shape
import TruthTable.Proofs.Dialogue
import TruthTable.Proofs.Batch
import TruthTable.Proofs.Printing
import TruthTable.Proofs.Projection
import TruthTable.Proofs.Evaluation
import TruthTable.Proofs.Fold
import TruthTable.Proofs.Renaming
import TruthTable.Proofs.Rejection
