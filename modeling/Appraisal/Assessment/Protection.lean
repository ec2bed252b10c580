/-
How well the warranties protect the buyer.

The score puts three things together: whether the manufacturer's warranty was confirmed, for how many
months the retailer gives one, and whether that includes labor. The gaps are told one by one beside it.

Four rules apply. The score itself never fails. Short coverage without labor is a risk that large savings
offset: they have to pay for three typical repairs. Excluded labor and an unconfirmed manufacturer's
warranty are warnings of their own.
-/
import Appraisal.Deal.Basic
import Appraisal.Decimal.Layout
import Appraisal.Rule.Catalog
import Appraisal.Rule.Thresholds

set_option autoImplicit false

namespace Appraisal

/-! ## Scores and risks -/

/-- The risk that is left to the buyer. -/
inductive RiskLevel where
  | low | medium | high
  deriving DecidableEq

instance : Vocabulary RiskLevel where
  all := [.low, .medium, .high]
  word
    | .low => "low"
    | .medium => "medium"
    | .high => "high"
  mem_all a := by cases a <;> decide
  word_inj a b := by cases a <;> cases b <;> decide

/-- How good the coverage is. -/
inductive WarrantyScore where
  | excellent | acceptable | limited | unacceptable
  deriving DecidableEq

instance : Vocabulary WarrantyScore where
  all := [.excellent, .acceptable, .limited, .unacceptable]
  word
    | .excellent => "excellent"
    | .acceptable => "acceptable"
    | .limited => "limited"
    | .unacceptable => "unacceptable"
  mem_all a := by cases a <;> decide
  word_inj a b := by cases a <;> cases b <;> decide

/-- The risk that goes with a score. -/
def WarrantyScore.risk : WarrantyScore → RiskLevel
  | .excellent | .acceptable => .low
  | .limited => .medium
  | .unacceptable => .high

/-- The score of the warranties. -/
def Warranty.score (w : Warranty) : WarrantyScore :=
  if w.manufacturer.isCovered && w.retailerMonths ≥ Threshold.warrantyExcellentMonths
      && w.laborIncluded then .excellent
  else if w.manufacturer.isCovered
      || (w.retailerMonths ≥ Threshold.warrantyAcceptableMonths && w.laborIncluded) then .acceptable
  else if w.retailerMonths ≥ Threshold.warrantyLimitedMonths then .limited
  else .unacceptable

/-! ## Gaps -/

namespace Warranty

/-- What is missing of the manufacturer's warranty. -/
def manufacturerGap : Coverage → List String
  | .unknown => ["Manufacturer warranty status is unknown"]
  | .notCovered => ["No manufacturer warranty coverage"]
  | .covered => []

/-- What is missing of the retailer's warranty. -/
def retailerGap (months : UInt32) : List String :=
  if months = 0 then ["No retailer warranty"]
  else if months < Threshold.warrantyAcceptableMonths then
    ["Retailer warranty of " ++ toString months.toNat ++ " month(s) is shorter than "
      ++ toString Threshold.warrantyAcceptableMonths.toNat ++ " months"]
  else []

/-- Everything that the warranties leave out. -/
def gaps (w : Warranty) : List String :=
  manufacturerGap w.manufacturer
    ++ retailerGap w.retailerMonths
    ++ (if w.laborIncluded then [] else ["Labor is not covered"])
    ++ (if w.partsIncluded then [] else ["Parts are not covered"])

/-- Is the coverage so short, and without labor, that only savings can make up for it? -/
def leavesRepairRisk (w : Warranty) : Bool :=
  w.retailerMonths < Threshold.warrantyAcceptableMonths && !w.laborIncluded

end Warranty

/-- What was found out about the warranties. -/
structure Protection where
  score : WarrantyScore
  risk : RiskLevel
  gaps : List String

namespace Protection

/-- What stands in for warranties that nobody looked at: the worst. -/
def placeholder : Protection where
  score := .unacceptable
  risk := WarrantyScore.unacceptable.risk
  gaps := ["Warranty coverage was not evaluated"]

/-! ## Findings -/

/-- The score, and what it was derived from. -/
def scoreFinding (w : Warranty) : Finding :=
  Rule.warrantyScore.finding true
    ("Warranty coverage scores " ++ Vocabulary.word w.score ++ " ("
      ++ toString w.retailerMonths.toNat ++ " months retailer, labor "
      ++ (if w.laborIncluded then "included" else "excluded") ++ ")")
    ["warranty.manufacturerCovered", "warranty.retailerWarrantyMonths", "warranty.laborIncluded"]
    ["warrantyEvaluation.score", "warrantyEvaluation.riskLevel"]

/-- Do the savings pay for the repairs that are to be expected? -/
def paysForRepairs (savings : Float) : Bool :=
  savings ≥ Threshold.repairSavingsFloor

/-- The savings against the repairs. -/
def repairMessage (savings : Float) : String :=
  let amount := Decimal.fixed 0 savings
  let repairs := Decimal.fixed 0 Threshold.repairCostMultiplier ++ " typical repairs ($"
    ++ Decimal.fixed 0 Threshold.repairSavingsFloor ++ ")"
  if paysForRepairs savings then
    "Savings of $" ++ amount ++ " cover " ++ repairs ++ " despite short coverage"
  else "Savings of $" ++ amount ++ " do not cover " ++ repairs ++ " with short coverage and no labor"

/-- The finding about the repairs that the warranties leave to the buyer. -/
def repairFinding (savings : Float) : Finding :=
  Rule.repairRisk.finding (paysForRepairs savings) (repairMessage savings)
    ["warranty.retailerWarrantyMonths", "warranty.laborIncluded", "financial.savingsVsNew"]
    ["warrantyEvaluation.riskLevel"]

/-- The finding about excluded labor. -/
def laborFinding : Finding :=
  Rule.laborExcluded.finding false
    "Warranty excludes labor; service calls will be paid out of pocket"
    ["warranty.laborIncluded"] ["warrantyEvaluation.coverageGaps"]

/-- The finding about a manufacturer's warranty that nobody confirmed. -/
def manufacturerFinding : Finding :=
  Rule.manufacturerUnknown.finding false
    "Manufacturer warranty status is unknown; confirm with the manufacturer using the serial number"
    ["warranty.manufacturerCovered"] ["warrantyEvaluation.coverageGaps"]

/-! ## The assessment -/

/-- Assesses the warranties of an appliance that costs so much less than a new one. -/
def assess (w : Warranty) (savings : Float) : Assessed Protection where
  result :=
    { score := w.score
      risk := w.score.risk
      gaps := w.gaps }
  findings :=
    [scoreFinding w]
      ++ (if w.leavesRepairRisk then [repairFinding savings] else [])
      ++ (if w.laborIncluded then [] else [laborFinding])
      ++ (if w.manufacturer = .unknown then [manufacturerFinding] else [])

end Protection

end Appraisal
