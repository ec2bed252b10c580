/-
The published rules.

Identifiers have the form `SEGMENT.CATEGORY.NAME_Vn`. The list `Rule.catalog` is in the order in which the
stages apply the rules, and it is append-only: a rule that changes its meaning gets a new identifier, and
the old entry stays, marked as deprecated, so that an old trace can still be looked up.
-/
import Appraisal.Rule.Basic

set_option autoImplicit false

namespace Appraisal.Rule

/-- A rule that is applied. -/
def active (id : String) (severity : Severity) (stage : Stage) (description : String) : Rule :=
  { id, severity, stage, description, status := .active }

/-! ## Damage -/

/-- Assigns the damage visibility tier from the recorded locations. -/
def damageTier : Rule :=
  active "DAMAGE.TIER.CLASSIFICATION_V1" .info .damage
    "Assigns the damage visibility tier from the recorded locations"

/-- Checks whether visible damage faces an exposed side of the installation. -/
def damageExposure : Rule :=
  active "DAMAGE.VISIBILITY.INSTALLATION_CHECK_V1" .warning .damage
    "Checks whether visible damage faces an exposed side of the installation"

/-! ## Price -/

/-- Computes the discount off retail and the savings versus buying new. -/
def discount : Rule :=
  active "PRICING.DISCOUNT.CALCULATION_V1" .info .pricing
    "Computes the discount off retail and the savings versus buying new"

/-- Rates the discount as excellent, good, fair, or poor. -/
def discountRating : Rule :=
  active "PRICING.DISCOUNT.RATING_V1" .info .pricing
    "Rates the discount as excellent, good, fair, or poor"

/-- Requires the discount to reach the minimum expected for the damage tier. -/
def discountForTier : Rule :=
  active "PRICING.DISCOUNT.TIER_EXPECTATION_V1" .warning .pricing
    "Requires the discount to reach the minimum expected for the damage tier"

/-! ## Safety -/

/-- Rust on the cabinet or internals. -/
def rust : Rule :=
  active "SAFETY.HAZARD.RUST_V1" .blocker .safety
    "Rust on the cabinet or internals"

/-- Water staining indicating flood or leak exposure. -/
def waterStaining : Rule :=
  active "SAFETY.HAZARD.WATER_STAINING_V1" .blocker .safety
    "Water staining indicating flood or leak exposure"

/-- Frayed, cut, or crushed power cord. -/
def damagedCord : Rule :=
  active "SAFETY.HAZARD.DAMAGED_CORD_V1" .blocker .safety
    "Frayed, cut, or crushed power cord"

/-- Burning, chemical, or mildew odor. -/
def odor : Rule :=
  active "SAFETY.HAZARD.ODOR_V1" .blocker .safety
    "Burning, chemical, or mildew odor"

/-- Missing shelves, racks, knobs, or safety components. -/
def missingParts : Rule :=
  active "SAFETY.HAZARD.MISSING_PARTS_V1" .blocker .safety
    "Missing shelves, racks, knobs, or safety components"

/-- Evidence of prior repairs. -/
def priorRepairs : Rule :=
  active "SAFETY.CONDITION.PRIOR_REPAIRS_V1" .warning .safety
    "Evidence of prior repairs"

/-- Grinding, rattling, or buzzing during operation. -/
def unusualSounds : Rule :=
  active "SAFETY.CONDITION.UNUSUAL_SOUNDS_V1" .warning .safety
    "Grinding, rattling, or buzzing during operation"

/-- Unit powers on during inspection. -/
def powerOn : Rule :=
  active "SAFETY.FUNCTION.POWER_ON_V1" .info .safety
    "Unit powers on during inspection"

/-! ## Warranty -/

/-- Scores warranty coverage from manufacturer, retailer, and labor terms. -/
def warrantyScore : Rule :=
  active "WARRANTY.SCORE.ASSESSMENT_V1" .info .warranty
    "Scores warranty coverage from manufacturer, retailer, and labor terms"

/-- Short coverage without labor must be offset by savings of three typical repairs. -/
def repairRisk : Rule :=
  active "WARRANTY.COVERAGE.REPAIR_RISK_V1" .warning .warranty
    "Short coverage without labor must be offset by savings of three typical repairs"

/-- Warranty does not cover labor. -/
def laborExcluded : Rule :=
  active "WARRANTY.COVERAGE.LABOR_EXCLUDED_V1" .warning .warranty
    "Warranty does not cover labor"

/-- Manufacturer warranty status could not be confirmed. -/
def manufacturerUnknown : Rule :=
  active "WARRANTY.COVERAGE.MANUFACTURER_UNKNOWN_V1" .warning .warranty
    "Manufacturer warranty status could not be confirmed"

/-! ## Returns -/

/-- Final sale with no warranty leaves no recourse. -/
def finalSaleNoWarranty : Rule :=
  active "RETURN.POLICY.FINAL_SALE_NO_WARRANTY_V1" .blocker .returns
    "Final sale with no warranty leaves no recourse"

/-- Final sale backed only by warranty coverage. -/
def finalSale : Rule :=
  active "RETURN.POLICY.FINAL_SALE_V1" .warning .returns
    "Final sale backed only by warranty coverage"

/-- Return window too short to surface hidden defects. -/
def shortWindow : Rule :=
  active "RETURN.WINDOW.SHORT_WINDOW_V1" .warning .returns
    "Return window too short to surface hidden defects"

/-- Restocking fee charged on returns. -/
def restockingFee : Rule :=
  active "RETURN.FEE.RESTOCKING_V1" .info .returns
    "Restocking fee charged on returns"

/-- Overall return policy rating. -/
def returnRating : Rule :=
  active "RETURN.POLICY.RATING_V1" .info .returns
    "Overall return policy rating"

/-! ## Negotiation -/

/-- Whether the retailer type negotiates on price. -/
def negotiable : Rule :=
  active "NEGOTIATION.FEASIBILITY.RETAILER_V1" .info .negotiation
    "Whether the retailer type negotiates on price"

/-- Additive likelihood that a counter-offer succeeds. -/
def negotiationOdds : Rule :=
  active "NEGOTIATION.PROBABILITY.SCORE_V1" .info .negotiation
    "Additive likelihood that a counter-offer succeeds"

/-- Suggested target price from the midpoint of the expected discount. -/
def targetPrice : Rule :=
  active "NEGOTIATION.TARGET.PRICE_V1" .info .negotiation
    "Suggested target price from the midpoint of the expected discount"

/-! ## Logistics -/

/-- Professional versus self delivery recommendation. -/
def delivery : Rule :=
  active "LOGISTICS.DELIVERY.METHOD_V1" .info .logistics
    "Professional versus self delivery recommendation"

/-- Refrigerator transport requirements. -/
def refrigeratorTransport : Rule :=
  active "LOGISTICS.TRANSPORT.REFRIGERATOR_V1" .info .logistics
    "Refrigerator transport requirements"

/-- Washer transport requirements. -/
def washerTransport : Rule :=
  active "LOGISTICS.TRANSPORT.WASHER_V1" .info .logistics
    "Washer transport requirements"

/-- Range transport requirements. -/
def rangeTransport : Rule :=
  active "LOGISTICS.TRANSPORT.RANGE_V1" .info .logistics
    "Range transport requirements"

/-- Transport requirements for dryers, dishwashers, and microwaves. -/
def generalTransport : Rule :=
  active "LOGISTICS.TRANSPORT.GENERAL_V1" .info .logistics
    "Transport requirements for dryers, dishwashers, and microwaves"

/-- Installation checklist for the appliance and installation type. -/
def installationNotes : Rule :=
  active "LOGISTICS.INSTALLATION.NOTES_V1" .info .logistics
    "Installation checklist for the appliance and installation type"

/-! ## Verdict -/

/-- Aggregates failed blockers and warnings into the final recommendation. -/
def recommendation : Rule :=
  active "VERDICT.AGGREGATE.RECOMMENDATION_V1" .info .verdict
    "Aggregates failed blockers and warnings into the final recommendation"

/-! ## The catalog -/

/-- Every rule ever published, active and deprecated. -/
def catalog : List Rule :=
  [damageTier, damageExposure, discount, discountRating, discountForTier, rust, waterStaining,
   damagedCord, odor, missingParts, priorRepairs, unusualSounds, powerOn, warrantyScore,
   repairRisk, laborExcluded, manufacturerUnknown, finalSaleNoWarranty, finalSale, shortWindow,
   restockingFee, returnRating, negotiable, negotiationOdds, targetPrice, delivery,
   refrigeratorTransport, washerTransport, rangeTransport, generalTransport, installationNotes,
   recommendation]

/-- The rule with the given identifier. -/
def lookup? (id : String) : Option Rule :=
  catalog.find? fun rule => rule.id == id

/-- Files a rule under its identifier. The entries stay sorted, and the rule takes the place of one that was
filed under the same identifier. -/
def file (rule : Rule) : List (String × Rule) → List (String × Rule)
  | [] => [(rule.id, rule)]
  | (id, other) :: rest =>
    if id = rule.id then (id, rule) :: rest
    else if rule.id < id then (rule.id, rule) :: (id, other) :: rest
    else (id, other) :: file rule rest

/-- Every rule ever published by its identifier, sorted by it. -/
def directory : List (String × Rule) :=
  catalog.foldl (fun entries rule => file rule entries) []

end Appraisal.Rule
