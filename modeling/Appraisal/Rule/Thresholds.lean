/-
The numbers of the ruleset: what counts as a good discount, a short warranty, an old stock.

They are constants and not settings, because a finding is only comparable with another one made under the
same numbers. Whoever changes one of them publishes a new version of the ruleset, and everything that was
kept under the old version is no longer found.
-/
import Appraisal.Deal.Kinds
import Appraisal.Rule.Basic

set_option autoImplicit false

namespace Appraisal

/-! ## Versions -/

/-- The version of the evaluation as a whole. -/
def evaluatorVersion : String :=
  "1.0.0"

/-- The version of the written forms. -/
def schemaVersion : String :=
  "1.0.0"

/-- The version of the rules and their numbers. -/
def rulesetVersion : String :=
  "1.0.0"

/-! ## Thresholds -/

namespace Threshold

/-- From this discount on, in percent, a price is excellent. -/
def discountExcellent : Float := 40.0

/-- From this discount on a price is good. -/
def discountGood : Float := 30.0

/-- From this discount on a price is fair. -/
def discountFair : Float := 20.0

/-- Months of retailer warranty that are excellent. -/
def warrantyExcellentMonths : UInt32 := 12

/-- Months of retailer warranty that are acceptable. -/
def warrantyAcceptableMonths : UInt32 := 6

/-- Months of retailer warranty that are better than none. -/
def warrantyLimitedMonths : UInt32 := 3

/-- What a typical repair costs. -/
def typicalRepairCost : Float := 300.0

/-- How many typical repairs the savings have to pay for. -/
def repairCostMultiplier : Float := 3.0

/-- Fewer days than this are too few to find a hidden defect. -/
def returnShortWindowDays : UInt32 := 7

/-- Days of return window that are acceptable. -/
def returnAcceptableWindowDays : UInt32 := 14

/-- Days of return window that are excellent. -/
def returnExcellentWindowDays : UInt32 := 30

/-- A restocking fee above this, in percent, is too high. -/
def returnMaxRestockingFee : Float := 15.0

/-- Stock older than this is aged. -/
def inventoryAgedDays : UInt32 := 30

/-- Stock older than this is stale. -/
def inventoryStaleDays : UInt32 := 60

/-- From this score on the odds of a lower price are high. -/
def negotiationHighScore : UInt32 := 5

/-- From this score on the odds are medium. -/
def negotiationMediumScore : UInt32 := 3

/-- From this score on the odds are low and not nil. -/
def negotiationLowScore : UInt32 := 1

/-- So many failed blockers end a deal. -/
def blockers : UInt32 := 1

/-- So many failed warnings call for caution. -/
def cautionWarnings : UInt32 := 1

/-- Savings that offset the risk of paying for repairs out of pocket. -/
def repairSavingsFloor : Float :=
  typicalRepairCost * repairCostMultiplier

end Threshold

/-- The discounts, in percent, between which a price for damage of this tier is to be expected. -/
def DamageTier.expectedDiscount : DamageTier → Float × Float
  | .hidden => (15.0, 25.0)
  | .partlyVisible => (25.0, 35.0)
  | .prominent => (35.0, 50.0)

/-- So many failed warnings make a buyer of this tolerance skip a deal. -/
def RiskTolerance.skipThreshold : RiskTolerance → UInt32
  | .low => 2
  | .moderate => 3
  | .high => 4

end Appraisal
