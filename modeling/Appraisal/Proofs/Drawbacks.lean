/-
What can be held against a deal that no gate stops.

There are nine drawbacks, and each of them is a condition on the deal alone. A deal without a hazard and with
some recourse is judged by how many of the nine it has. The evaluation arrives at this number in another way:
it counts failed findings of warning severity, some of which are only made when something is wrong, and a
final sale counts as a warning or stops the deal depending on the warranties.

The two counts are compared stage by stage. Each drawback belongs to the stage that finds it, and what a
stage makes of its own drawbacks does not depend on the other stages.
-/
import Appraisal.Proofs.Gates

set_option autoImplicit false

namespace Appraisal

/-- What can be held against a deal without stopping it. -/
inductive Drawback where
  | seenDamage | lowDiscount | priorRepairs | unusualSounds | repairRisk | laborExcluded
  | manufacturerUnknown | finalSale | shortWindow
  deriving DecidableEq

namespace Drawback

/-- All drawbacks, in the order of the stages that find them. -/
def all : List Drawback :=
  [.seenDamage, .lowDiscount, .priorRepairs, .unusualSounds, .repairRisk, .laborExcluded,
    .manufacturerUnknown, .finalSale, .shortWindow]

/-- The drawbacks that a stage finds. -/
def foundAt : Stage → List Drawback
  | .damage => [.seenDamage]
  | .pricing => [.lowDiscount]
  | .safety => [.priorRepairs, .unusualSounds]
  | .warranty => [.repairRisk, .laborExcluded, .manufacturerUnknown]
  | .returns => [.finalSale, .shortWindow]
  | .negotiation | .logistics | .verdict => []

/-- Between them the stages find every drawback once. -/
theorem all_eq_flatMap : all = Stage.order.flatMap foundAt := rfl

end Drawback

namespace Deal

variable (deal : Deal) (timestamp : String)

/-! ## Drawbacks as conditions on a deal -/

/-- Does the deal have the drawback? -/
def has : Drawback → Bool
  | .seenDamage =>
    deal.damage.spots.toList.any (fun spot => spot.side?.any deal.installation.visibleSides.holds)
      && Visibility.tierOf deal.damage ≠ .hidden
  | .lowDiscount =>
    !decide (deal.price.result.discountPercent ≥ (Visibility.tierOf deal.damage).expectedDiscount.1)
  | .priorRepairs => deal.inspection.any Inspection.priorRepairs
  | .unusualSounds => deal.inspection.any Inspection.unusualSounds
  | .repairRisk =>
    deal.warranty.retailerMonths < 6 && !deal.warranty.laborIncluded
      && !decide (deal.price.result.savings ≥ 900.0)
  | .laborExcluded => !deal.warranty.laborIncluded
  | .manufacturerUnknown => deal.warranty.manufacturer = .unknown
  | .finalSale => deal.returnPolicy.finalSale
  | .shortWindow => deal.returnPolicy.windowDays < 7

/-- How many drawbacks the deal has. -/
def drawbackCount : Nat :=
  Drawback.all.countP deal.has

/-! ## What each stage counts -/

/-- Damage is seen if some damaged spot faces an open side and the tier is not the hidden one. -/
theorem isSeen_eq_has :
    Visibility.isSeen deal.damage deal.installation = deal.has .seenDamage := by
  have hfaces : Visibility.faces deal.installation
      = fun spot => spot.side?.any deal.installation.visibleSides.holds := by
    funext spot
    rw [Visibility.faces]
    cases spot.side? <;> rfl
  have hany : ∀ spots : List Spot, (!(spots.filter (Visibility.faces deal.installation)).isEmpty)
      = spots.any (Visibility.faces deal.installation) := by
    intro spots
    rw [Bool.eq_iff_iff, Bool.not_eq_true', List.isEmpty_eq_false_iff, Ne, List.filter_eq_nil_iff,
      List.any_eq_true]
    push Not
    rfl
  rw [Visibility.isSeen, Visibility.exposed, hany, hfaces, has]

/-- Counting conditions is adding up their indicators. -/
theorem countP_has_cons (drawback : Drawback) (rest : List Drawback) :
    (drawback :: rest).countP deal.has = (deal.has drawback).toNat + rest.countP deal.has := by
  rw [List.countP_cons, Nat.add_comm]
  cases deal.has drawback <;> rfl

/-- Each stage fails as many warnings as the deal has drawbacks of the kind that the stage finds, unless the
sale leaves no recourse: then the final sale is a blocker and no warning. -/
theorem countP_findingsAt (hrecourse : deal.lacksRecourse = false) (stage : Stage) :
    (deal.findingsAt stage).countP Finding.isFailedWarning
      = (Drawback.foundAt stage).countP deal.has := by
  cases stage with
  | damage =>
      rw [Drawback.foundAt, countP_has_cons, ← isSeen_eq_has]
      exact Visibility.countP_isFailedWarning_assess deal.damage deal.installation
  | pricing =>
      rw [Drawback.foundAt, countP_has_cons]
      exact Price.countP_isFailedWarning_assess deal.appliance (Visibility.tierOf deal.damage)
  | safety =>
      rw [Drawback.foundAt, countP_has_cons, countP_has_cons]
      exact Condition.countP_isFailedWarning_assess deal.inspection
  | warranty =>
      have hcount := Protection.countP_isFailedWarning_assess deal.warranty deal.price.result.savings
      -- three repairs at three hundred each, computed in doubles
      have hfloor : Threshold.repairSavingsFloor = 900.0 := by rfl
      rw [Protection.paysForRepairs, hfloor] at hcount
      rw [Drawback.foundAt, countP_has_cons, countP_has_cons, countP_has_cons, ← Nat.add_assoc,
        ← Nat.add_assoc]
      exact hcount
  | returns =>
      -- with some recourse a final sale is the warning, and never the blocker
      have hfinal : (deal.returnPolicy.finalSale && deal.warranty.isGiven) = deal.has .finalSale := by
        rw [lacksRecourse_eq] at hrecourse
        rw [has]
        cases hsale : deal.returnPolicy.finalSale with
        | false => rfl
        | true =>
            rw [hsale, Bool.true_and, Bool.not_eq_false'] at hrecourse
            rw [hrecourse]
            rfl
      rw [Drawback.foundAt, countP_has_cons, countP_has_cons, ← hfinal]
      exact Recourse.countP_isFailedWarning_assess deal.returnPolicy deal.warranty
  | negotiation =>
      exact Finding.countP_isFailedWarning_of_passed fun _ hf => Bargaining.passed_of_mem_assess hf
  | logistics =>
      exact Finding.countP_isFailedWarning_of_passed fun _ hf => Delivery.passed_of_mem_assess hf
  | verdict =>
      exact Finding.countP_isFailedWarning_of_passed fun _ hf => Verdict.passed_of_mem_assess hf

/-- What holds for each stage holds for any run of stages. -/
theorem countP_findingsOf (hrecourse : deal.lacksRecourse = false) (stages : List Stage) :
    (deal.findingsOf stages).countP Finding.isFailedWarning
      = (stages.flatMap Drawback.foundAt).countP deal.has := by
  induction stages with
  | nil => rfl
  | cons stage rest ih =>
      rw [findingsOf, List.flatMap_cons, List.countP_append, ← findingsOf, ih,
        deal.countP_findingsAt hrecourse, List.flatMap_cons, List.countP_append]

/-- **The warnings of a complete evaluation are the drawbacks of the deal.** -/
theorem countP_findingsOf_order (hrecourse : deal.lacksRecourse = false) :
    (deal.findingsOf Stage.order).countP Finding.isFailedWarning = deal.drawbackCount := by
  rw [deal.countP_findingsOf hrecourse, drawbackCount, Drawback.all_eq_flatMap]

/-! ## The verdict on a deal that no gate stops -/

/-- **What the number of drawbacks makes of a deal** that has no hazard and leaves some recourse. No drawback
is a clear case. Below the number that the buyer does not put up with any more they call for caution, and from
there on the deal is to be skipped. -/
theorem evaluate_by_drawbacks (deal : Deal) (timestamp : String)
    (hhazard : deal.hasHazard = false) (hrecourse : deal.lacksRecourse = false) :
    let verdict := (deal.evaluate timestamp).verdict
    let n := deal.drawbackCount
    let skip : Nat := match deal.buyer.riskTolerance with
      | .low => 2
      | .moderate => 3
      | .high => 4
    verdict.failedBlockers = 0
      ∧ verdict.forcedByHalt = false
      ∧ verdict.failedWarnings.toNat = n
      ∧ verdict.recommendation
        = (if n = 0 then .proceed else if n < skip then .proceedWithCaution else .skip)
      ∧ verdict.confidence = (if n = 0 then .high else if n = 1 then .medium else .low) := by
  intro verdict n skip
  have hhalt : deal.halt? = none := deal.halt?_eq_none_iff.mpr ⟨hhazard, hrecourse⟩
  have hskip : deal.buyer.riskTolerance.skipThreshold.toNat = skip := by
    change _ = match deal.buyer.riskTolerance with
      | .low => 2
      | .moderate => 3
      | .high => 4
    cases deal.buyer.riskTolerance <;> rfl
  have hverdict := deal.verdict_of_clear timestamp hhalt
  rw [deal.countP_findingsOf_order hrecourse, hskip] at hverdict
  exact hverdict

/-- A chipped door in plain sight, too small a discount for it and excluded labor are three drawbacks, and
a buyer of high tolerance puts up with three. -/
theorem chippedRange_by_drawbacks :
    let verdict := (Sample.chippedRange.deal.evaluate "2025-06-01T12:00:00Z").verdict
    Sample.chippedRange.deal.drawbackCount = 3 ∧ verdict.failedWarnings.toNat = 3
      ∧ verdict.recommendation = .proceedWithCaution ∧ verdict.confidence = .low := by
  intro verdict
  have hcount : Sample.chippedRange.deal.drawbackCount = 3 := by decide +kernel
  obtain ⟨_, _, hwarnings, hrecommendation, hconfidence⟩ :=
    evaluate_by_drawbacks Sample.chippedRange.deal "2025-06-01T12:00:00Z" (by decide) (by decide)
  rw [hcount] at hwarnings hrecommendation hconfidence
  exact ⟨hcount, hwarnings, hrecommendation, hconfidence⟩

end Deal

end Appraisal
