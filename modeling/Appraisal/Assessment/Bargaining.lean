/-
Whether there is room for a lower price, and what to ask for.

The odds of a lower price are a score of four independent factors: the kind of retailer, the age of the
stock, the tier of the damage and a price above what is usual. Big-box stores do not negotiate, whatever
the score. The target price is the retail price less the midpoint of the expected discount.

A leverage point is a factor said as an argument. Beside the price there are other things to ask for, some
of which are always worth asking.
-/
import Appraisal.Assessment.Price
import Appraisal.Text.Blank

set_option autoImplicit false

namespace Appraisal

/-- The odds of a lower price. -/
inductive Odds where
  | high | medium | low | unlikely
  deriving DecidableEq

instance : Vocabulary Odds where
  all := [.high, .medium, .low, .unlikely]
  word
    | .high => "high"
    | .medium => "medium"
    | .low => "low"
    | .unlikely => "unlikely"
  mem_all a := by cases a <;> decide
  word_inj a b := by cases a <;> cases b <;> decide

/-- The odds that a score stands for. -/
def Odds.ofScore (score : UInt32) : Odds :=
  if score ≥ Threshold.negotiationHighScore then .high
  else if score ≥ Threshold.negotiationMediumScore then .medium
  else if score ≥ Threshold.negotiationLowScore then .low
  else .unlikely

/-- What was found out about the room for a lower price. -/
structure Bargaining where
  possible : Bool
  odds : Odds
  score : UInt32
  targetPrice : Float
  leverage : List String
  otherAsks : List String

namespace Bargaining

/-- What stands in for a negotiation that nobody thought about: none, at the price as it is. -/
def placeholder (askingPrice : Float) : Bargaining where
  possible := false
  odds := .unlikely
  score := 0
  targetPrice := askingPrice
  leverage := []
  otherAsks := []

/-! ## The score -/

/-- What the kind of retailer adds to the score. -/
def retailerFactor : RetailerKind → UInt32
  | .independent | .liquidation => 2
  | .outlet => 1
  | .bigBox => 0

/-- What the age of the stock adds to the score; an unknown age adds nothing. -/
def ageFactor : Option UInt32 → UInt32
  | none => 0
  | some days =>
    if days > Threshold.inventoryStaleDays then 2
    else if days > Threshold.inventoryAgedDays then 1
    else 0

/-- What the tier of the damage adds to the score. -/
def tierFactor : DamageTier → UInt32
  | .prominent => 2
  | .partlyVisible => 1
  | .hidden => 0

/-- What a price above the usual adds to the score. -/
def discountFactor (meetsExpectation : Bool) : UInt32 :=
  if meetsExpectation then 0 else 2

/-- The score of a deal. -/
def scoreOf (deal : Deal) (tier : DamageTier) (price : Price) : UInt32 :=
  retailerFactor deal.retailer.kind + ageFactor deal.retailer.inventoryAgeDays + tierFactor tier
    + discountFactor price.meetsExpectation

/-- Does a retailer of this kind negotiate at all? -/
def isPossible (kind : RetailerKind) : Bool :=
  kind ≠ .bigBox

/-- The odds at a retailer of this kind. -/
def oddsAt (kind : RetailerKind) (score : UInt32) : Odds :=
  if isPossible kind then .ofScore score else .unlikely

/-- The retail price less the midpoint of the expected discount. -/
def target (retail : Float) (expected : Float × Float) : Float :=
  Price.reduced retail ((expected.1 + expected.2) / 2.0)

/-! ## Arguments -/

/-- The argument from the age of the stock. -/
def agePoint : Option UInt32 → List String
  | none => []
  | some days =>
    if days > Threshold.inventoryAgedDays then
      ["Unit has been in inventory for " ++ toString days.toNat
        ++ " days; the retailer wants it off the floor"]
    else []

/-- The argument from visible damage. -/
def damagePoint (tier : DamageTier) (marks : List Mark) : List String :=
  let seen := Text.lower tier.label ++ " once installed"
  if tier = .hidden then []
  else if marks.isEmpty then ["Damage is " ++ seen]
  else ["Damage (" ++ ", ".intercalate (marks.map Vocabulary.word) ++ ") is " ++ seen]

/-- The argument from a discount below the usual. -/
def discountPoint (price : Price) : List String :=
  if price.meetsExpectation then []
  else
    ["Current discount of " ++ Price.tenth price.discountPercent ++ "% is below the "
      ++ Price.whole price.expectedDiscount.1 ++ "% typical for this damage"]

/-- The argument from excluded labor. -/
def laborPoint (laborIncluded : Bool) : List String :=
  if laborIncluded then [] else ["Warranty excludes labor, shifting repair risk to you"]

/-- The arguments for a lower price. -/
def leverageOf (deal : Deal) (tier : DamageTier) (price : Price) : List String :=
  agePoint deal.retailer.inventoryAgeDays
    ++ damagePoint tier deal.damage.marks.toList
    ++ discountPoint price
    ++ laborPoint deal.warranty.laborIncluded

/-- What to ask for beside the price. -/
def asksOf (deal : Deal) : List String :=
  ["Free delivery and installation", "Haul-away of your old appliance at no charge"]
    ++ (if deal.warranty.extendedAvailable then ["Extended warranty included at no cost"] else [])
    ++ (if deal.warranty.laborIncluded then [] else ["Written labor coverage for the first year"])
    ++ (if deal.buyer.priceFlexibility = .firm then
          ["Hold at your target price and be prepared to walk away"]
        else [])

/-! ## Wording -/

/-- Whether the retailer negotiates, in words. -/
def feasibilityMessage (kind : RetailerKind) : String :=
  if isPossible kind then Vocabulary.word kind ++ " retailers usually have room to negotiate"
  else "Big-box retailers rarely negotiate floor-model pricing"

/-- The score and the odds in words. -/
def oddsMessage (kind : RetailerKind) (score : UInt32) : String :=
  "Negotiation score " ++ toString score.toNat ++ " gives " ++ Vocabulary.word (oddsAt kind score)
    ++ " odds of a lower price"

/-- The target price in words. -/
def targetMessage (retail : Float) (expected : Float × Float) : String :=
  "Target $" ++ Price.whole (target retail expected) ++ ", the midpoint of the "
    ++ Price.whole expected.1 ++ "-" ++ Price.whole expected.2 ++ "% expected discount"

/-! ## The assessment -/

/-- Assesses the room for a lower price, given the tier of the damage and the assessment of the price. -/
def assess (deal : Deal) (tier : DamageTier) (price : Price) : Assessed Bargaining :=
  let kind := deal.retailer.kind
  let score := scoreOf deal tier price
  let retail := deal.appliance.retailPrice
  let expected := price.expectedDiscount
  { result :=
      { possible := isPossible kind
        odds := oddsAt kind score
        score
        targetPrice := target retail expected
        leverage := leverageOf deal tier price
        otherAsks := asksOf deal }
    findings := [
      Rule.negotiable.finding true (feasibilityMessage kind)
        ["retailer.type"] ["negotiation.possible"],
      Rule.negotiationOdds.finding true (oddsMessage kind score)
        ["retailer.type", "retailer.inventoryAgeDays", "damageAssessment.tier",
          "financial.discountPercent"]
        ["negotiation.probability"],
      Rule.targetPrice.finding true (targetMessage retail expected)
        ["appliance.retailPrice", "financial.expectedDiscountRange"]
        ["negotiation.suggestedTargetPrice"]] }

end Bargaining

end Appraisal
