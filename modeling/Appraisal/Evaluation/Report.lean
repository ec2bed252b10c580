/-
An evaluation in a few lines for the buyer.

The report tells the recommendation first and then one line a part. A part that was skipped is reported as
such, with the stage at which the evaluation was halted. The delivery is left out then: it has a line only if it
was planned.
-/
import Appraisal.Evaluation.Basic

set_option autoImplicit false

namespace Appraisal.Report

/-! ## Words with a capital -/

/-- A confidence the way the report says it. -/
def confidenceText : Confidence → String
  | .high => "High"
  | .medium => "Medium"
  | .low => "Low"

/-- A risk the way the report says it. -/
def riskText : RiskLevel → String
  | .low => "Low"
  | .medium => "Medium"
  | .high => "High"

/-! ## Lines -/

/-- The recommendation, and behind it the reasons. -/
def verdictLines (verdict : Verdict) : List String :=
  ["Recommendation: " ++ Vocabulary.word verdict.recommendation ++ " ("
      ++ confidenceText verdict.confidence ++ " confidence)",
   "  " ++ verdict.summary]

/-- The line about the price. -/
def priceLine (price : Price) : String :=
  "Price: $" ++ Price.whole price.asking ++ " asking vs $" ++ Price.whole price.retail ++ " retail, "
    ++ Price.tenth price.discountPercent ++ "% off (" ++ Vocabulary.word price.rating
    ++ "), fair range $" ++ Price.whole price.fairPrice.1 ++ "-$" ++ Price.whole price.fairPrice.2

/-- The line about the damage. -/
def damageLine (visibility : Visibility) : String :=
  "Damage: tier " ++ toString visibility.tier.number ++ " (" ++ visibility.tierLabel ++ ")"
    ++ (if visibility.acceptable then "" else ", visible once installed")

/-- The line about the condition. -/
def safetyLine (condition : Condition) : String :=
  match condition.advisory with
  | some advisory => "Safety: not inspected. " ++ advisory
  | none =>
    if condition.passed then
      "Safety: passed (" ++ toString condition.warnings.length ++ " warning(s))"
    else "Safety: FAILED - " ++ "; ".intercalate condition.blockers

/-- The line about a part whose stage was skipped. -/
def skippedLine (part : String) (haltedAt : Stage) : String :=
  part ++ ": skipped after " ++ haltedAt.label

/-- The line about the warranties. -/
def warrantyLine : Slot Protection → String
  | .evaluated protection =>
    "Warranty: " ++ Vocabulary.word protection.score ++ " (" ++ riskText protection.risk ++ " risk)"
  | .skipped _ haltedAt => skippedLine "Warranty" haltedAt

/-- The line about the terms of return. -/
def returnsLine : Slot Recourse → String
  | .evaluated recourse => "Returns: " ++ Vocabulary.word recourse.rating
  | .skipped _ haltedAt => skippedLine "Returns" haltedAt

/-- The line about a lower price. -/
def negotiationLine : Slot Bargaining → String
  | .evaluated bargaining =>
    if bargaining.possible then
      "Negotiation: " ++ Vocabulary.word bargaining.odds ++ " odds, target $"
        ++ Price.whole bargaining.targetPrice
    else "Negotiation: unlikely at this retailer"
  | .skipped _ haltedAt => skippedLine "Negotiation" haltedAt

/-- The line about the delivery, if it was planned. -/
def deliveryLines : Slot Delivery → List String
  | .evaluated delivery => ["Delivery: " ++ delivery.reason]
  | .skipped .. => []

/-! ## The report -/

/-- The lines of the report. -/
def lines (evaluation : Evaluation) : List String :=
  verdictLines evaluation.verdict
    ++ [priceLine evaluation.price,
        damageLine evaluation.visibility,
        safetyLine evaluation.condition,
        warrantyLine evaluation.protection,
        returnsLine evaluation.recourse,
        negotiationLine evaluation.bargaining]
    ++ deliveryLines evaluation.delivery

/-- The report as one text, every line closed by a line feed. -/
def text (evaluation : Evaluation) : String :=
  String.join ((lines evaluation).map (· ++ "\n"))

end Appraisal.Report
