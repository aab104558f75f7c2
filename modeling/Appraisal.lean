import Appraisal.Calendar.Clock
import Appraisal.File.Tree
import Appraisal.Formula.Outline
import Appraisal.Journal.Session
import Appraisal.Json.Plain
import Appraisal.Main
import Appraisal.Note.Call
import Appraisal.Proofs.Formula.Induction
import Appraisal.Proofs.Outcome
import Appraisal.Valuation.Raised
import Appraisal.Proofs.Formula.Lowering
import Appraisal.Proofs.Formula.Typing
import Appraisal.Proofs.Formula.Value
import Appraisal.Proofs.Formula.Meaning
import Appraisal.Proofs.Formula.Conformance
import Appraisal.Proofs.Formula.Soundness
import Appraisal.Proofs.Journal.Writing
import Appraisal.Proofs.Sorting
import Appraisal.Proofs.Loan.Derivation
import Appraisal.Proofs.Loan.Listing
import Appraisal.Proofs.Ledger.Selection
import Appraisal.Proofs.Loan.Coherence
import Appraisal.Proofs.Journal.Effects
import Appraisal.Proofs.Valuation.MarketValue
import Appraisal.Proofs.Valuation.Transcript
import Appraisal.Proofs.Formula.Variables
import Appraisal.Proofs.Decimal.Exact
import Appraisal.Proofs.Loan.Summary
import Appraisal.Proofs.Loan.Dashboard
import Appraisal.Proofs.Number.Fixed
import Appraisal.Proofs.Number.Nearest
import Appraisal.Proofs.Decimal.Double
import Appraisal.Proofs.Ledger.Storage
import Appraisal.Proofs.Formula.Parsing
import Appraisal.Proofs.Formula.Size
import Appraisal.Proofs.Formula.Budget
import Appraisal.Proofs.Json.Reading
import Appraisal.Proofs.Json.Canonical
import Appraisal.Proofs.Valuation.Checksum
import Appraisal.Proofs.Number.Monotone
import Appraisal.Proofs.Loan.Progression
import Appraisal.Proofs.Formula.Limit
import Appraisal.Proofs.Formula.Extension
import Appraisal.Proofs.Formula.Finite
import Appraisal.Proofs.Formula.Unchecked
import Appraisal.Proofs.Formula.Call
import Appraisal.Proofs.Ledger.Matching
import Appraisal.Proofs.Loan.Maturity
import Appraisal.Proofs.Number.Numeral
import Appraisal.Proofs.Note.Terms
import Appraisal.Proofs.Decimal.Value
import Appraisal.Proofs.Decimal.Rounding
import Appraisal.Proofs.Decimal.Sum
import Appraisal.Proofs.Loan.Balance
import Appraisal.Proofs.Loan.Reordering
import Appraisal.Proofs.Number.Report
import Appraisal.Proofs.Loan.Figures
import Appraisal.Proofs.Loan.Totals
import Appraisal.Proofs.Note.Words
import Appraisal.Proofs.Number.Whole
import Appraisal.Proofs.Note.Duration
import Appraisal.Proofs.Valuation.Preview
import Appraisal.Proofs.Number.Operations
import Appraisal.Proofs.Json.Grammar
import Appraisal.Proofs.Json.Document
import Appraisal.Proofs.Valuation.Payload
import Appraisal.Proofs.Digest.Fingerprint
import Appraisal.Proofs.Json.Reordering
import Appraisal.Proofs.Digest.Reordering
import Appraisal.Proofs.Digest.Separation
import Appraisal.Proofs.Valuation.Document
import Appraisal.Proofs.Formula.Lexing
import Appraisal.Proofs.Formula.Column
import Appraisal.Proofs.Valuation.Shadowing
import Appraisal.Proofs.Journal.Blocks
import Appraisal.Proofs.Ledger.Transaction
import Appraisal.Proofs.Json.Spelling
import Appraisal.Proofs.Journal.Line
import Appraisal.Proofs.Formula.Expressible
import Appraisal.Proofs.Loan.HeldDays
import Appraisal.Proofs.Number.Ties
import Appraisal.Proofs.Decimal.Shortest
import Appraisal.Proofs.Note.CloseMarker
import Appraisal.Proofs.Formula.Rounding
