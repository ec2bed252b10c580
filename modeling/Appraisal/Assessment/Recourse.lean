/-
What the buyer can do if the appliance turns out to be bad: bring it back, or rely on a warranty.

The policy is rated by its window, its fee and whether the sale is final. A final sale without any
warranty leaves no recourse at all, and is the one policy that ends the evaluation. A final sale with a
warranty, and a window too short to find a hidden defect in, are warnings. A restocking fee is told and
weighs nothing by itself.
-/
import Appraisal.Deal.Basic
import Appraisal.Decimal.Layout
import Appraisal.Rule.Catalog
import Appraisal.Rule.Thresholds

set_option autoImplicit false

namespace Appraisal

/-- How good the terms of return are. -/
inductive ReturnRating where
  | excellent | acceptable | risky | redFlag
  deriving DecidableEq

instance : Vocabulary ReturnRating where
  all := [.excellent, .acceptable, .risky, .redFlag]
  word
    | .excellent => "excellent"
    | .acceptable => "acceptable"
    | .risky => "risky"
    | .redFlag => "red_flag"
  mem_all a := by cases a <;> decide
  word_inj a b := by cases a <;> cases b <;> decide

/-- Is there any warranty at all? -/
def Warranty.isGiven (w : Warranty) : Bool :=
  w.retailerMonths > 0 || w.manufacturer.isCovered

/-! ## Rating a policy -/

namespace ReturnPolicy

/-- Is the window too short to find a hidden defect in? -/
def isShort (policy : ReturnPolicy) : Bool :=
  policy.windowDays < Threshold.returnShortWindowDays

/-- Does a return cost anything? -/
def hasFee (policy : ReturnPolicy) : Bool :=
  policy.restockingFeePercent > 0.0

/-- Is the fee no more than what is tolerable? -/
def hasTolerableFee (policy : ReturnPolicy) : Bool :=
  policy.restockingFeePercent ≤ Threshold.returnMaxRestockingFee

/-- The rating of a policy, with or without a warranty to fall back on. -/
def rating (policy : ReturnPolicy) (hasWarranty : Bool) : ReturnRating :=
  if policy.finalSale && !hasWarranty then .redFlag
  else if policy.finalSale || policy.isShort then .risky
  else if policy.windowDays ≥ Threshold.returnExcellentWindowDays
      && policy.restockingFeePercent == 0.0 then .excellent
  else if policy.windowDays ≥ Threshold.returnAcceptableWindowDays
      || (policy.windowDays ≥ Threshold.returnShortWindowDays && policy.hasTolerableFee) then
    .acceptable
  else .risky

/-- The window in words. -/
def windowText (policy : ReturnPolicy) : String :=
  "Return window of " ++ toString policy.windowDays.toNat ++ " day(s)"

/-- The fee in words. -/
def feeText (policy : ReturnPolicy) : String :=
  "Restocking fee of " ++ Decimal.fixed 0 policy.restockingFeePercent ++ "%"

/-- What is to be held against a policy. -/
def concerns (policy : ReturnPolicy) : List String :=
  (if policy.finalSale then ["Final sale; returns are not accepted"] else [])
    ++ (if policy.isShort then
          [policy.windowText ++ " is shorter than "
            ++ toString Threshold.returnShortWindowDays.toNat ++ " days"]
        else [])
    ++ (if policy.hasFee then [policy.feeText ++ " applies to returns"] else [])

end ReturnPolicy

/-- What was found out about the terms of return. -/
structure Recourse where
  rating : ReturnRating
  hasWarranty : Bool
  concerns : List String

namespace Recourse

/-- What stands in for terms that nobody looked at: the worst. -/
def placeholder : Recourse where
  rating := .redFlag
  hasWarranty := false
  concerns := ["Return policy was not evaluated"]

/-! ## Findings -/

/-- The finding about a sale that is final, which is worse without a warranty. -/
def finalSaleFinding : (hasWarranty : Bool) → Finding
  | false =>
    Rule.finalSaleNoWarranty.finding false
      "Final sale with no warranty; any defect after purchase is entirely your cost"
      ["returnPolicy.finalSale", "warranty.retailerWarrantyMonths", "warranty.manufacturerCovered"]
      ["returnPolicyAssessment.rating"]
  | true =>
    Rule.finalSale.finding false
      "Final sale; only the warranty protects against defects"
      ["returnPolicy.finalSale", "warranty.retailerWarrantyMonths"]
      ["returnPolicyAssessment.rating"]

/-- The finding about a short window. -/
def windowFinding (policy : ReturnPolicy) : Finding :=
  Rule.shortWindow.finding false
    (policy.windowText ++ " leaves little time to find hidden defects")
    ["returnPolicy.windowDays"] ["returnPolicyAssessment.rating"]

/-- The finding about a fee. -/
def feeFinding (policy : ReturnPolicy) : Finding :=
  Rule.restockingFee.finding policy.hasTolerableFee
    (policy.feeText ++ " is charged on returns")
    ["returnPolicy.restockingFeePercent"] ["returnPolicyAssessment.concerns"]

/-- The finding about the rating. -/
def ratingFinding (rating : ReturnRating) : Finding :=
  Rule.returnRating.finding (rating = .excellent || rating = .acceptable)
    ("Return policy rates " ++ Vocabulary.word rating)
    ["returnPolicy.windowDays", "returnPolicy.restockingFeePercent", "returnPolicy.finalSale"]
    ["returnPolicyAssessment.rating"]

/-! ## The assessment -/

/-- Assesses the terms of return together with the warranties. -/
def assess (policy : ReturnPolicy) (warranty : Warranty) : Assessed Recourse :=
  let hasWarranty := warranty.isGiven
  { result :=
      { rating := policy.rating hasWarranty
        hasWarranty
        concerns := policy.concerns }
    findings :=
      (if policy.finalSale then [finalSaleFinding hasWarranty] else [])
        ++ (if policy.isShort then [windowFinding policy] else [])
        ++ (if policy.hasFee then [feeFinding policy] else [])
        ++ [ratingFinding (policy.rating hasWarranty)] }

end Recourse

end Appraisal
