/-
What each stage can hold against a deal.

A stage returns findings, and two questions decide what they mean for the verdict: which is the first failed
blocker, and how many warnings failed. For each stage both are answered here from the facts that the stage
looks at. Only two stages can fail a blocker at all, and those are the gates. The stages behind the second
gate pass everything that they find.
-/
import Appraisal.Assessment.Bargaining
import Appraisal.Assessment.Condition
import Appraisal.Assessment.Delivery
import Appraisal.Assessment.Price
import Appraisal.Assessment.Protection
import Appraisal.Assessment.Recourse
import Appraisal.Assessment.Visibility
import Appraisal.Proofs.Aggregate

set_option autoImplicit false

namespace Appraisal

/-! ## The damage -/

namespace Visibility

variable (damage : Damage) (installation : Installation)

theorem find?_isFailedBlocker_assess :
    (assess damage installation).findings.find? Finding.isFailedBlocker = none := by
  simp [assess, Rule.damageTier, Rule.damageExposure, Rule.active]

theorem countP_isFailedWarning_assess :
    (assess damage installation).findings.countP Finding.isFailedWarning
      = (isSeen damage installation).toNat := by
  cases hseen : isSeen damage installation <;>
    simp [assess, Rule.damageTier, Rule.damageExposure, Rule.active, hseen]

end Visibility

/-! ## The price -/

namespace Price

variable (appliance : Appliance) (tier : DamageTier)

theorem find?_isFailedBlocker_assess :
    (assess appliance tier).findings.find? Finding.isFailedBlocker = none := by
  simp [assess, Rule.discount, Rule.discountRating, Rule.discountForTier, Rule.active]

theorem countP_isFailedWarning_assess :
    (assess appliance tier).findings.countP Finding.isFailedWarning
      = (!(assess appliance tier).result.meetsExpectation).toNat := by
  cases hmeets : (assess appliance tier).result.meetsExpectation <;>
    simp_all [assess, Rule.discount, Rule.discountRating, Rule.discountForTier, Rule.active]

end Price

/-! ## The condition -/

namespace Inspection

/-- The five hazards in the order in which they are looked at, each with its flag and its rule. -/
def hazards (inspection : Inspection) : List (Bool × Rule) :=
  [(inspection.rustPresent, Rule.rust),
   (inspection.waterStaining, Rule.waterStaining),
   (inspection.cordDamaged, Rule.damagedCord),
   (inspection.odorPresent, Rule.odor),
   (inspection.missingParts, Rule.missingParts)]

/-- The rule of the first hazard whose flag is set. -/
def firstHazard? (inspection : Inspection) : Option Rule :=
  (inspection.hazards.find? Prod.fst).map Prod.snd

end Inspection

namespace Condition

/-- A check fails as a blocker exactly when it is about a hazard and its flag is set. -/
theorem Check.isFailedBlocker_finding (check : Check) (inspection : Inspection) :
    (check.finding inspection).isFailedBlocker
      = (check.isHazard && check.isFlagged inspection) := by
  rw [Check.finding, Rule.isFailedBlocker_finding, Bool.not_not, Check.isHazard]

/-- The hazards are the checks of blocker severity, in the order of the checks. -/
theorem hazards_eq_checks (inspection : Inspection) :
    inspection.hazards
      = (checks.filter Check.isHazard).map fun check =>
          (check.isFlagged inspection, check.rule) := rfl

/-- The first failed blocker of an inspection is the finding of the first hazard check that is flagged. -/
theorem find?_isFailedBlocker_assess_some (inspection : Inspection) :
    (assess (some inspection)).findings.find? Finding.isFailedBlocker
      = (checks.find? fun check => check.isHazard && check.isFlagged inspection).map
          (·.finding inspection) := by
  have hpower : (powerFinding inspection).isFailedBlocker = false := by
    simp [powerFinding, Rule.powerOn, Rule.active]
  have hchecks : Finding.isFailedBlocker ∘ (·.finding inspection)
      = fun check : Check => check.isHazard && check.isFlagged inspection := by
    funext check
    exact Check.isFailedBlocker_finding check inspection
  simp only [assess, List.find?_append, List.find?_map, hchecks, List.find?_cons, hpower,
    List.find?_nil, Option.or_none]

/-- The condition stage stops an evaluation by the rule of the first hazard, and by no other rule. -/
theorem map_ruleId_find?_assess (inspection : Option Inspection) :
    ((assess inspection).findings.find? Finding.isFailedBlocker).map Finding.ruleId
      = (inspection.bind Inspection.firstHazard?).map Rule.id := by
  cases inspection with
  | none => rfl
  | some inspection =>
      have hflag : (fun check : Check => decide (check.isHazard = true
            ∧ (Prod.fst ∘ fun check : Check => (check.isFlagged inspection, check.rule)) check = true))
          = fun check => check.isHazard && check.isFlagged inspection := by
        funext check
        simp
      rw [find?_isFailedBlocker_assess_some, Option.bind_some, Inspection.firstHazard?,
        hazards_eq_checks, List.find?_map, List.find?_filter, hflag]
      simp only [Option.map_map]
      rfl

theorem countP_isFailedWarning_assess (inspection : Option Inspection) :
    (assess inspection).findings.countP Finding.isFailedWarning
      = (inspection.any Inspection.priorRepairs).toNat
        + (inspection.any Inspection.unusualSounds).toNat := by
  cases inspection with
  | none => rfl
  | some inspection =>
      cases hrepairs : inspection.priorRepairs <;> cases hsounds : inspection.unusualSounds <;>
        simp [assess, checks, Check.finding, powerFinding, Rule.rust, Rule.waterStaining,
          Rule.damagedCord, Rule.odor, Rule.missingParts, Rule.priorRepairs, Rule.unusualSounds,
          Rule.powerOn, Rule.active, hrepairs, hsounds]

end Condition

/-! ## The warranties -/

namespace Protection

variable (warranty : Warranty) (savings : Float)

theorem find?_isFailedBlocker_assess :
    (assess warranty savings).findings.find? Finding.isFailedBlocker = none := by
  -- which findings are made depends on the guards, so each combination of them is a list of its own
  cases hrisk : warranty.leavesRepairRisk <;> cases hlabor : warranty.laborIncluded <;>
    by_cases hmaker : warranty.manufacturer = .unknown <;>
    simp [assess, scoreFinding, repairFinding, laborFinding, manufacturerFinding,
      Rule.warrantyScore, Rule.repairRisk, Rule.laborExcluded, Rule.manufacturerUnknown,
      Rule.active, hrisk, hlabor, hmaker]

theorem countP_isFailedWarning_assess :
    (assess warranty savings).findings.countP Finding.isFailedWarning
      = (warranty.leavesRepairRisk && !paysForRepairs savings).toNat
        + (!warranty.laborIncluded).toNat + (decide (warranty.manufacturer = .unknown)).toNat := by
  cases hrisk : warranty.leavesRepairRisk <;> cases hpays : paysForRepairs savings <;>
    cases hlabor : warranty.laborIncluded <;> by_cases hmaker : warranty.manufacturer = .unknown <;>
    simp [assess, scoreFinding, repairFinding, laborFinding, manufacturerFinding,
      Rule.warrantyScore, Rule.repairRisk, Rule.laborExcluded, Rule.manufacturerUnknown,
      Rule.active, hrisk, hpays, hlabor, hmaker]

end Protection

/-! ## The terms of return -/

namespace Recourse

variable (policy : ReturnPolicy) (warranty : Warranty)

/-- The return stage stops an evaluation exactly if the sale is final and there is no warranty. -/
theorem find?_isFailedBlocker_assess :
    (assess policy warranty).findings.find? Finding.isFailedBlocker
      = if policy.finalSale && !warranty.isGiven then some (finalSaleFinding false) else none := by
  cases hfinal : policy.finalSale <;> cases hgiven : warranty.isGiven <;>
    cases hshort : policy.isShort <;> cases hfee : policy.hasFee <;>
    simp [assess, finalSaleFinding, windowFinding, feeFinding, ratingFinding, Rule.finalSale,
      Rule.finalSaleNoWarranty, Rule.shortWindow, Rule.restockingFee, Rule.returnRating,
      Rule.active, hfinal, hgiven, hshort, hfee]

theorem countP_isFailedWarning_assess :
    (assess policy warranty).findings.countP Finding.isFailedWarning
      = (policy.finalSale && warranty.isGiven).toNat + policy.isShort.toNat := by
  cases hfinal : policy.finalSale <;> cases hgiven : warranty.isGiven <;>
    cases hshort : policy.isShort <;> cases hfee : policy.hasFee <;>
    simp [assess, finalSaleFinding, windowFinding, feeFinding, ratingFinding, Rule.finalSale,
      Rule.finalSaleNoWarranty, Rule.shortWindow, Rule.restockingFee, Rule.returnRating,
      Rule.active, hfinal, hgiven, hshort, hfee]

end Recourse

/-! ## The stages behind the gates -/

theorem Bargaining.passed_of_mem_assess {deal : Deal} {tier : DamageTier} {price : Price}
    {f : Finding} (hf : f ∈ (assess deal tier price).findings) : f.passed = true := by
  simp only [assess, List.mem_cons, List.not_mem_nil, or_false] at hf
  rcases hf with rfl | rfl | rfl <;> rfl

theorem Delivery.passed_of_mem_assess {appliance : Appliance} {installation : Installation}
    {f : Finding} (hf : f ∈ (assess appliance installation).findings) : f.passed = true := by
  simp only [assess, List.mem_cons, List.not_mem_nil, or_false] at hf
  rcases hf with rfl | rfl | rfl <;> rfl

theorem Verdict.passed_of_mem_assess {findings : List Finding} {tolerance : RiskTolerance}
    {f : Finding} (hf : f ∈ (assess findings tolerance).findings) : f.passed = true := by
  simp only [assess, List.mem_singleton] at hf
  rw [hf]
  rfl

end Appraisal
