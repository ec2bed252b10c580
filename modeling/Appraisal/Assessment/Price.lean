/-
Whether the price is right.

The discount is what the asking price takes off the retail price, in percent, rounded to one decimal place;
a retail price that is not positive gives no discount at all. A price for damaged goods is fair when the
discount lies in the range that is usual for the tier of the damage, and it meets the expectation when the
discount reaches the lower end of that range.

All numbers are doubles, computed in the order in which the definitions say, so that a discount on the edge
of a range always falls on the same side. An absurd price gives an absurd discount and never an error.
-/
import Appraisal.Deal.Basic
import Appraisal.Decimal.Layout
import Appraisal.Rule.Catalog
import Appraisal.Rule.Thresholds

set_option autoImplicit false

namespace Appraisal

/-- How good a discount is. -/
inductive DiscountRating where
  | excellent | good | fair | poor
  deriving DecidableEq

instance : Vocabulary DiscountRating where
  all := [.excellent, .good, .fair, .poor]
  word
    | .excellent => "excellent"
    | .good => "good"
    | .fair => "fair"
    | .poor => "poor"
  mem_all a := by cases a <;> decide
  word_inj a b := by cases a <;> cases b <;> decide

/-- The rating of a discount in percent. What is no number is poor. -/
def DiscountRating.ofPercent (percent : Float) : DiscountRating :=
  if percent ≥ Threshold.discountExcellent then .excellent
  else if percent ≥ Threshold.discountGood then .good
  else if percent ≥ Threshold.discountFair then .fair
  else .poor

/-- What was found out about the price. -/
structure Price where
  retail : Float
  asking : Float
  discountPercent : Float
  savings : Float
  rating : DiscountRating
  expectedDiscount : Float × Float
  fairPrice : Float × Float
  meetsExpectation : Bool

namespace Price

/-! ## Arithmetic -/

/-- The discount in percent, rounded to one decimal place. -/
def discount (retail asking : Float) : Float :=
  if retail ≤ 0.0 then 0.0
  else Binary64.roundAway ((retail - asking) / retail * 100.0 * 10.0) / 10.0

/-- The retail price less a discount in percent, rounded to a whole number. -/
def reduced (retail percent : Float) : Float :=
  Binary64.roundAway (retail * (1.0 - percent / 100.0))

/-! ## Wording -/

/-- A number rounded to a whole one. -/
def whole (x : Float) : String :=
  Decimal.fixed 0 x

/-- A number rounded to one decimal place. -/
def tenth (x : Float) : String :=
  Decimal.fixed 1 x

/-- The two prices and the discount between them. -/
def discountMessage (retail asking : Float) : String :=
  "Asking $" ++ whole asking ++ " against retail $" ++ whole retail ++ " is "
    ++ tenth (discount retail asking) ++ "% off (saves $" ++ whole (retail - asking) ++ ")"

/-- The discount and its rating. -/
def ratingMessage (percent : Float) : String :=
  "Discount of " ++ tenth percent ++ "% rates "
    ++ Vocabulary.word (DiscountRating.ofPercent percent)

/-- The discount against what is usual for the tier. -/
def expectationMessage (percent : Float) (tier : DamageTier) : String :=
  let range := tier.expectedDiscount
  if percent ≥ range.1 then
    "Discount of " ++ tenth percent ++ "% meets the " ++ whole range.1 ++ "-" ++ whole range.2
      ++ "% expected for tier " ++ toString tier.number ++ " damage"
  else
    "Discount of " ++ tenth percent ++ "% is below the " ++ whole range.1
      ++ "% minimum expected for tier " ++ toString tier.number ++ " damage"

/-! ## The assessment -/

/-- Assesses the two prices of an appliance whose damage has the given tier. -/
def assess (appliance : Appliance) (tier : DamageTier) : Assessed Price :=
  let retail := appliance.retailPrice
  let asking := appliance.askingPrice
  let percent := discount retail asking
  let range := tier.expectedDiscount
  { result :=
      { retail
        asking
        discountPercent := percent
        savings := retail - asking
        rating := .ofPercent percent
        expectedDiscount := range
        fairPrice := (reduced retail range.2, reduced retail range.1)
        meetsExpectation := percent ≥ range.1 }
    findings := [
      Rule.discount.finding true (discountMessage retail asking)
        ["appliance.retailPrice", "appliance.askingPrice"]
        ["financial.discountPercent", "financial.savingsVsNew"],
      Rule.discountRating.finding true (ratingMessage percent)
        ["financial.discountPercent"] ["financial.discountRating"],
      Rule.discountForTier.finding (percent ≥ range.1) (expectationMessage percent tier)
        ["financial.discountPercent", "damageAssessment.tier"]
        ["financial.expectedDiscountRange", "financial.fairPriceEstimate"]] }

end Price

end Appraisal
