import Appraisal.Address
import Appraisal.Admission
import Appraisal.Archive
import Appraisal.Assessment.Bargaining
import Appraisal.Assessment.Condition
import Appraisal.Assessment.Delivery
import Appraisal.Assessment.Format
import Appraisal.Assessment.Price
import Appraisal.Assessment.Protection
import Appraisal.Assessment.Recourse
import Appraisal.Assessment.Verdict
import Appraisal.Assessment.Visibility
import Appraisal.CommandLine.Arguments
import Appraisal.CommandLine.Listing
import Appraisal.CommandLine.Run
import Appraisal.Deal.Basic
import Appraisal.Deal.Format
import Appraisal.Deal.Kinds
import Appraisal.Decimal.Binary64
import Appraisal.Decimal.Layout
import Appraisal.Decimal.Literal
import Appraisal.Decimal.Shortest
import Appraisal.Desk
import Appraisal.Evaluation.Basic
import Appraisal.Evaluation.Format
import Appraisal.Evaluation.Report
import Appraisal.Failure
import Appraisal.Fingerprint
import Appraisal.Json.Basic
import Appraisal.Json.Bytes
import Appraisal.Json.Canonical
import Appraisal.Json.Codec
import Appraisal.Json.Decoder
import Appraisal.Json.Fault
import Appraisal.Json.Node
import Appraisal.Json.Printer
import Appraisal.Json.Reader
import Appraisal.Json.Tagged
import Appraisal.Ledger
import Appraisal.LogFilter
import Appraisal.Main
import Appraisal.Proofs.Aggregate
import Appraisal.Proofs.Agreement
import Appraisal.Proofs.Archive
import Appraisal.Proofs.Audit
import Appraisal.Proofs.BetterTerms
import Appraisal.Proofs.CanonicalForm
import Appraisal.Proofs.Composition
import Appraisal.Proofs.Course
import Appraisal.Proofs.Cutoff
import Appraisal.Proofs.DealPresentation
import Appraisal.Proofs.DealText
import Appraisal.Proofs.DeclaredInputs
import Appraisal.Proofs.DoubleEquality
import Appraisal.Proofs.DoubleNearest
import Appraisal.Proofs.DoubleOrder
import Appraisal.Proofs.DoubleRange
import Appraisal.Proofs.DoubleRounding
import Appraisal.Proofs.DoubleValue
import Appraisal.Proofs.Drawbacks
import Appraisal.Proofs.EqualDeals
import Appraisal.Proofs.EvaluationText
import Appraisal.Proofs.FairPrice
import Appraisal.Proofs.FaultlessReading
import Appraisal.Proofs.FiniteNumbers
import Appraisal.Proofs.Gates
import Appraisal.Proofs.Grammar
import Appraisal.Proofs.Groupings
import Appraisal.Proofs.History
import Appraisal.Proofs.Ledger
import Appraisal.Proofs.Leverage
import Appraisal.Proofs.LookupPath
import Appraisal.Proofs.Messages
import Appraisal.Proofs.NumberText
import Appraisal.Proofs.NumberValue
import Appraisal.Proofs.OneByte
import Appraisal.Proofs.Outside
import Appraisal.Proofs.Presentation
import Appraisal.Proofs.Published
import Appraisal.Proofs.QuotationText
import Appraisal.Proofs.Reach
import Appraisal.Proofs.Reading
import Appraisal.Proofs.Rearranged
import Appraisal.Proofs.Recognition
import Appraisal.Proofs.RecordPresentation
import Appraisal.Proofs.Refusals
import Appraisal.Proofs.ReportLines
import Appraisal.Proofs.Shelf
import Appraisal.Proofs.ShortestDigits
import Appraisal.Proofs.ShownNumbers
import Appraisal.Proofs.Slots
import Appraisal.Proofs.Stages
import Appraisal.Proofs.Success
import Appraisal.Proofs.SummaryLine
import Appraisal.Proofs.TaggedText
import Appraisal.Proofs.TextBytes
import Appraisal.Proofs.Tiling
import Appraisal.Proofs.ValueText
import Appraisal.Proofs.Weighing
import Appraisal.Proofs.Worsening
import Appraisal.Rule.Basic
import Appraisal.Rule.Catalog
import Appraisal.Rule.Format
import Appraisal.Rule.Thresholds
import Appraisal.Samples
import Appraisal.Settings
import Appraisal.Text.Alphanumeric
import Appraisal.Text.Blank
import Appraisal.Text.Number
import Appraisal.Text.Quoted
import Appraisal.Text.Unshown
import Appraisal.Timestamp
import Appraisal.Trace.Basic
import Appraisal.Trace.Format
import Appraisal.Vocabulary
import Appraisal.Web.MediaType
import Appraisal.Web.Site
