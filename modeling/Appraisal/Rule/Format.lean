/-
The written form of rules and findings, and the registry as one document.

A finding is written and read back. A rule is only written: the catalog belongs to this library and is
published, never taken from outside. The registry document is what an auditor asks for, all of the rules
and all of the numbers under one version.

A number of the ruleset is a count or an amount. On its own a count is written as an integer; in the
table of the registry every number is written as a double.
-/
import Appraisal.Json.Codec
import Appraisal.Rule.Catalog
import Appraisal.Rule.Thresholds

set_option autoImplicit false

namespace Appraisal

open Json

/-! ## Findings -/

instance : Codec Finding where
  encode f := .object [
    ("ruleId", encode f.ruleId),
    ("severity", encode f.severity),
    ("passed", encode f.passed),
    ("message", encode f.message),
    ("inputsUsed", encode f.inputsUsed),
    ("outputsAffected", encode f.outputsAffected)]
  decode := record "struct RuleResult"
    ["ruleId", "severity", "passed", "message", "inputsUsed", "outputsAffected"] fun r =>
      Finding.mk <$> r.get "ruleId" <*> r.get "severity" <*> r.get "passed" <*> r.get "message"
        <*> r.get "inputsUsed" <*> r.get "outputsAffected"

/-! ## Rules -/

/-- The status of a rule as JSON. -/
def RuleStatus.toJson : RuleStatus → Json
  | .active => .object [("state", .string "active")]
  | .deprecated successor =>
    .object [("state", .string "deprecated"), ("supersededBy", .string successor)]

/-- A rule as JSON. -/
def Rule.toJson (rule : Rule) : Json :=
  .object [
    ("id", .string rule.id),
    ("severity", encode rule.severity),
    ("module", encode rule.stage),
    ("description", .string rule.description),
    ("status", rule.status.toJson)]

/-! ## The numbers of the ruleset -/

/-- A number of the ruleset. -/
inductive Quantity where
  | count (n : UInt32)
  | amount (x : Float)

/-- The number as a double. -/
def Quantity.toFloat : Quantity → Float
  | .count n => Float.ofNat n.toNat
  | .amount x => x

/-- The number as JSON, a count as an integer. -/
def Quantity.toJson : Quantity → Json
  | .count n => encode n
  | .amount x => encode x

/-- Every threshold by name, sorted by name. -/
def Threshold.table : List (String × Quantity) :=
  [("blockerThreshold", .count blockers),
   ("cautionWarningThreshold", .count cautionWarnings),
   ("discountExcellentPercent", .amount discountExcellent),
   ("discountFairPercent", .amount discountFair),
   ("discountGoodPercent", .amount discountGood),
   ("inventoryAgedDays", .count inventoryAgedDays),
   ("inventoryStaleDays", .count inventoryStaleDays),
   ("negotiationHighScore", .count negotiationHighScore),
   ("negotiationLowScore", .count negotiationLowScore),
   ("negotiationMediumScore", .count negotiationMediumScore),
   ("repairCostMultiplier", .amount repairCostMultiplier),
   ("returnAcceptableWindowDays", .count returnAcceptableWindowDays),
   ("returnExcellentWindowDays", .count returnExcellentWindowDays),
   ("returnMaxRestockingFeePercent", .amount returnMaxRestockingFee),
   ("returnShortWindowDays", .count returnShortWindowDays),
   ("typicalRepairCost", .amount typicalRepairCost),
   ("warrantyAcceptableMonths", .count warrantyAcceptableMonths),
   ("warrantyExcellentMonths", .count warrantyExcellentMonths),
   ("warrantyLimitedMonths", .count warrantyLimitedMonths)]

/-- The thresholds as one object, every number a double. -/
def Threshold.toJson : Json :=
  .object (table.map fun (name, quantity) => (name, .real quantity.toFloat))

/-! ## The registry -/

/-- The registry as one document: the versions, the order of the stages, the rules and the numbers. -/
def registryJson : Json :=
  .object [
    ("compilerVersion", .string evaluatorVersion),
    ("schemaVersion", .string schemaVersion),
    ("rulesetVersion", .string rulesetVersion),
    ("executionOrder", encode Stage.order),
    ("rules", Json.list Rule.toJson Rule.catalog),
    ("thresholds", Threshold.toJson),
    ("tierDiscountRanges",
      .object (DamageTier.all.map fun tier => (toString tier.number, encode tier.expectedDiscount))),
    ("riskToleranceSkipThresholds",
      .object ([RiskTolerance.high, .low, .moderate].map fun tolerance =>
        (Vocabulary.word tolerance, encode tolerance.skipThreshold)))]

end Appraisal
