/-
Results agree with the findings beside them.

A stage gives a result and, beside it, findings, and it computes them apart: the result has its own guards,
the findings have theirs. A buyer reads the result, and the verdict is made of the findings. So what both of
them tell has to be the same.

What has to agree is said for each stage in terms of the result and the findings alone: a flag, a list of
messages that is a selection of the findings, a gap that stands for a warning, or two lists that go through the
same matters. The facts that the guards look at do not occur there; it takes a proof to see that the guards are
the same. The stages behind the gates have no result that a finding could contradict: they pass everything.
-/
import Mathlib.Data.List.Forall2
import Appraisal.Proofs.Slots

set_option autoImplicit false

namespace Appraisal

/-! ## The flags of a rule -/

namespace Finding

/-- What the findings of a rule say, in their order: whether the check was passed. -/
def flags (rule : Rule) (findings : List Finding) : List Bool :=
  (findings.filter fun f => f.ruleId = rule.id).map Finding.passed

variable (rule other : Rule)

@[simp] theorem flags_nil : flags rule [] = [] := rfl

@[simp] theorem flags_append (before behind : List Finding) :
    flags rule (before ++ behind) = flags rule before ++ flags rule behind := by
  rw [flags, List.filter_append, List.map_append]
  rfl

@[simp] theorem flags_cons_finding (passed : Bool) (message : String) (inputs outputs : List String)
    (rest : List Finding) :
    flags rule (other.finding passed message inputs outputs :: rest)
      = if other.id = rule.id then passed :: flags rule rest else flags rule rest := by
  by_cases hsame : other.id = rule.id <;> simp [flags, hsame]

/-- A finding that is made under a condition has its flags under this condition. -/
theorem flags_ite (c : Prop) [Decidable c] (findings others : List Finding) :
    flags rule (if c then findings else others)
      = if c then flags rule findings else flags rule others :=
  apply_ite (flags rule) c findings others

end Finding

open Finding (flags)

/-! ## The damage and the price -/

/-- Damage is acceptable if the rule about exposed damage says so. -/
theorem Visibility.flags_damageExposure (damage : Damage) (installation : Installation) :
    flags Rule.damageExposure (assess damage installation).findings
      = [(assess damage installation).result.acceptable] := by
  simp [assess, Rule.damageTier, Rule.damageExposure, Rule.active]

/-- A price meets the expectation if the rule about the discount for the tier says so. -/
theorem Price.flags_discountForTier (appliance : Appliance) (tier : DamageTier) :
    flags Rule.discountForTier (assess appliance tier).findings
      = [(assess appliance tier).result.meetsExpectation] := by
  simp [assess, Rule.discount, Rule.discountRating, Rule.discountForTier, Rule.active]

/-! ## The condition -/

namespace Condition

/-- The blockers and the warnings of a condition are the messages of its findings: of those that are failed
blockers, and of all others that failed. It is passed if there is no failed blocker. -/
structure Agrees (stage : Assessed Condition) : Prop where
  passed_eq : stage.result.passed = !stage.findings.any Finding.isFailedBlocker
  blockers_eq : stage.result.blockers
    = (stage.findings.filter Finding.isFailedBlocker).map Finding.message
  warnings_eq : stage.result.warnings
    = (stage.findings.filter fun f => !f.passed && !f.isFailedBlocker).map Finding.message

variable (inspection : Inspection)

/-- What a flagged check says of an inspection is what its finding says. -/
theorem Check.message_finding {check : Check} (hflag : check.isFlagged inspection = true) :
    (check.finding inspection).message = check.ifFlagged :=
  if_pos hflag

/-- A selection of the checks that takes only flagged ones, in words, is the same selection of findings. -/
theorem map_message_filter_checks (takes : Check → Bool) (picks : Finding → Bool)
    (hpicks : ∀ check, picks (check.finding inspection) = takes check)
    (htakes : ∀ check, takes check = true → check.isFlagged inspection = true) :
    ((checks.map (·.finding inspection)).filter picks).map Finding.message
      = (checks.filter takes).map (·.ifFlagged) := by
  have hsame : picks ∘ (·.finding inspection) = takes := funext hpicks
  rw [List.filter_map, hsame, List.map_map]
  apply List.map_congr_left
  intro check hcheck
  exact check.message_finding inspection (htakes check (List.mem_filter.mp hcheck).2)

theorem isFailedBlocker_powerFinding : (powerFinding inspection).isFailedBlocker = false := by
  simp [powerFinding, Rule.powerOn, Rule.active]

theorem blockersOf_eq :
    blockersOf inspection
      = ((assess (some inspection)).findings.filter Finding.isFailedBlocker).map Finding.message := by
  have hchecks := map_message_filter_checks inspection
    (fun check => check.isFlagged inspection && check.isHazard) Finding.isFailedBlocker
    (fun check => by rw [Check.isFailedBlocker_finding, Bool.and_comm])
    (fun check htakes => (Bool.and_eq_true_iff.mp htakes).1)
  rw [assess, List.filter_append, List.map_append, hchecks,
    List.filter_cons_of_neg (by simp [isFailedBlocker_powerFinding])]
  exact (List.append_nil _).symm

theorem warningsOf_append_power :
    warningsOf inspection ++ (if inspection.powersOn then [] else [powerMessage inspection])
      = ((assess (some inspection)).findings.filter
          fun f => !f.passed && !f.isFailedBlocker).map Finding.message := by
  have hchecks := map_message_filter_checks inspection
    (fun check => check.isFlagged inspection && !check.isHazard)
    (fun f => !f.passed && !f.isFailedBlocker)
    (fun check => by
      -- a finding that is not passed is one of a flagged check
      have hpassed : (!(check.finding inspection).passed) = check.isFlagged inspection := Bool.not_not _
      rw [hpassed, Check.isFailedBlocker_finding]
      cases check.isFlagged inspection <;> simp)
    (fun check htakes => (Bool.and_eq_true_iff.mp htakes).1)
  rw [assess, List.filter_append, List.map_append, hchecks, List.filter_singleton,
    isFailedBlocker_powerFinding]
  cases hpower : inspection.powersOn <;> simp [powerFinding, Rule.finding, warningsOf, hpower]

/-- There is nothing to tell about failed blockers exactly if no blocker failed. -/
theorem isEmpty_map_filter (findings : List Finding) :
    ((findings.filter Finding.isFailedBlocker).map Finding.message).isEmpty
      = !findings.any Finding.isFailedBlocker := by
  rw [Bool.eq_iff_iff]
  simp [List.filter_eq_nil_iff]

theorem agrees_assess (inspection : Option Inspection) : Agrees (assess inspection) := by
  cases inspection with
  | none => exact ⟨rfl, rfl, rfl⟩
  | some inspection =>
      have hblockers := blockersOf_eq inspection
      refine ⟨?_, hblockers, warningsOf_append_power inspection⟩
      rw [← isEmpty_map_filter, ← hblockers]
      rfl

end Condition

/-! ## The warranties -/

namespace Protection

/-- The gap that excluded labor is. -/
def laborGap : String :=
  "Labor is not covered"

/-- The gap that a manufacturer's warranty is of which nobody knows. -/
def unknownGap : String :=
  "Manufacturer warranty status is unknown"

/-- Each of the two warnings is made, once and as a failure, if its gap is told, and not at all otherwise. -/
structure Agrees (stage : Assessed Protection) : Prop where
  labor : flags Rule.laborExcluded stage.findings
    = if laborGap ∈ stage.result.gaps then [false] else []
  manufacturer : flags Rule.manufacturerUnknown stage.findings
    = if unknownGap ∈ stage.result.gaps then [false] else []

/-- A gap about the retailer's warranty is told as one: it says "retailer" before it says what is covered. -/
theorem not_mem_retailerGap (months : UInt32) :
    laborGap ∉ Warranty.retailerGap months ∧ unknownGap ∉ Warranty.retailerGap months := by
  have hlabor : ∀ rest : String, laborGap ≠ "Retailer warranty of " ++ rest := by
    intro rest heq
    have hchars := congrArg String.toList heq
    rw [String.toList_append] at hchars
    simp [laborGap] at hchars
  have hunknown : ∀ rest : String, unknownGap ≠ "Retailer warranty of " ++ rest := by
    intro rest heq
    have hchars := congrArg String.toList heq
    rw [String.toList_append] at hchars
    simp [unknownGap] at hchars
  unfold Warranty.retailerGap
  split_ifs
  · simp [laborGap, unknownGap]
  · simp only [List.mem_singleton, String.append_assoc]
    exact ⟨hlabor _, hunknown _⟩
  · simp

variable (warranty : Warranty)

theorem laborGap_mem_gaps : laborGap ∈ warranty.gaps ↔ warranty.laborIncluded = false := by
  obtain ⟨hretailer, _⟩ := not_mem_retailerGap warranty.retailerMonths
  have hmanufacturer : laborGap ∉ Warranty.manufacturerGap warranty.manufacturer := by
    cases warranty.manufacturer <;> simp [Warranty.manufacturerGap, laborGap]
  have hparts : laborGap ≠ "Parts are not covered" := by simp [laborGap]
  unfold Warranty.gaps
  simp only [List.mem_append, hmanufacturer, hretailer, false_or]
  cases warranty.laborIncluded <;> cases warranty.partsIncluded <;> simp [laborGap]

theorem unknownGap_mem_gaps : unknownGap ∈ warranty.gaps ↔ warranty.manufacturer = .unknown := by
  obtain ⟨_, hretailer⟩ := not_mem_retailerGap warranty.retailerMonths
  have hmanufacturer :
      unknownGap ∈ Warranty.manufacturerGap warranty.manufacturer ↔ warranty.manufacturer = .unknown := by
    cases warranty.manufacturer <;> simp [Warranty.manufacturerGap, unknownGap]
  unfold Warranty.gaps
  simp only [List.mem_append, hmanufacturer, hretailer, or_false]
  cases warranty.laborIncluded <;> cases warranty.partsIncluded <;> simp [unknownGap]

theorem agrees_assess (savings : Float) : Agrees (assess warranty savings) where
  labor := by
    -- behind the gap stands the guard that the finding has, too
    change _ = if laborGap ∈ warranty.gaps then _ else _
    rw [if_congr (laborGap_mem_gaps warranty) rfl rfl]
    cases hlabor : warranty.laborIncluded <;>
      simp [assess, scoreFinding, repairFinding, laborFinding, manufacturerFinding, Finding.flags_ite,
        Rule.warrantyScore, Rule.repairRisk, Rule.laborExcluded, Rule.manufacturerUnknown,
        Rule.active, hlabor]
  manufacturer := by
    change _ = if unknownGap ∈ warranty.gaps then _ else _
    rw [if_congr (unknownGap_mem_gaps warranty) rfl rfl]
    by_cases hunknown : warranty.manufacturer = .unknown <;>
      simp [assess, scoreFinding, repairFinding, laborFinding, manufacturerFinding, Finding.flags_ite,
        Rule.warrantyScore, Rule.repairRisk, Rule.laborExcluded, Rule.manufacturerUnknown,
        Rule.active, hunknown]

end Protection

/-! ## The terms of return -/

namespace Recourse

/-- A concern and a finding are about the same matter: the sale is final, the window is short, or a return
costs something. -/
inductive SameMatter (policy : ReturnPolicy) (hasWarranty : Bool) : String → Finding → Prop where
  | finalSale : SameMatter policy hasWarranty
      "Final sale; returns are not accepted" (finalSaleFinding hasWarranty)
  | window : SameMatter policy hasWarranty
      (policy.windowText ++ " is shorter than " ++ toString Threshold.returnShortWindowDays.toNat ++ " days")
      (windowFinding policy)
  | fee : SameMatter policy hasWarranty
      (policy.feeText ++ " applies to returns") (feeFinding policy)

/-- The rating is a red flag if the blocker of the stage is found, which then failed, and nothing else is a failed
blocker. The last finding is the only one about the rating, and fails for the two lower ratings. All findings
before it go through the concerns, one by one. -/
structure Agrees (policy : ReturnPolicy) (stage : Assessed Recourse) : Prop where
  blocker : flags Rule.finalSaleNoWarranty stage.findings
    = if stage.result.rating = .redFlag then [false] else []
  isFailedBlocker_eq : ∀ f ∈ stage.findings,
    f.isFailedBlocker = decide (f.ruleId = Rule.finalSaleNoWarranty.id)
  rating : flags Rule.returnRating stage.findings
    = [!decide (stage.result.rating = .risky ∨ stage.result.rating = .redFlag)]
  last : stage.findings.getLast?.map Finding.ruleId = some Rule.returnRating.id
  concerns : List.Forall₂ (SameMatter policy stage.result.hasWarranty)
    stage.result.concerns stage.findings.dropLast

/-- A concern and a finding that are told under one condition go together. -/
theorem forall₂_ite {α β : Type} {R : α → β → Prop} {a : α} {b : β} (h : R a b) (c : Prop) [Decidable c] :
    List.Forall₂ R (if c then [a] else []) (if c then [b] else []) := by
  split_ifs
  · exact .cons h .nil
  · exact .nil

variable (policy : ReturnPolicy) (warranty : Warranty)

/-- The findings of the stage are those about single matters, and the one about the rating behind them. -/
theorem findings_assess :
    (assess policy warranty).findings
      = ((if policy.finalSale then [finalSaleFinding warranty.isGiven] else [])
          ++ (if policy.isShort then [windowFinding policy] else [])
          ++ (if policy.hasFee then [feeFinding policy] else []))
        ++ [ratingFinding (assess policy warranty).result.rating] := rfl

theorem forall₂_concerns :
    List.Forall₂ (SameMatter policy warranty.isGiven) policy.concerns
      (assess policy warranty).findings.dropLast := by
  rw [findings_assess, List.dropLast_concat]
  exact List.rel_append (List.rel_append (forall₂_ite .finalSale _) (forall₂_ite .window _))
    (forall₂_ite .fee _)

/-- The rating fails for the two lower ratings. -/
theorem passed_ratingFinding (rating : ReturnRating) :
    (ratingFinding rating).passed = !decide (rating = .risky ∨ rating = .redFlag) := by
  cases rating <;> rfl

theorem flags_returnRating :
    flags Rule.returnRating (assess policy warranty).findings
      = [(ratingFinding (assess policy warranty).result.rating).passed] := by
  -- the rule of a final sale depends on the warranty, and none of its two rules is this one
  cases hgiven : warranty.isGiven <;>
    simp [findings_assess, finalSaleFinding, windowFinding, feeFinding, ratingFinding, Finding.flags_ite,
      Rule.finalSale, Rule.finalSaleNoWarranty, Rule.shortWindow, Rule.restockingFee,
      Rule.returnRating, Rule.active, hgiven]

theorem flags_finalSaleNoWarranty :
    flags Rule.finalSaleNoWarranty (assess policy warranty).findings
      = if policy.finalSale && !warranty.isGiven then [false] else [] := by
  cases hgiven : warranty.isGiven <;>
    simp [findings_assess, finalSaleFinding, windowFinding, feeFinding, ratingFinding, Finding.flags_ite,
      Rule.finalSale, Rule.finalSaleNoWarranty, Rule.shortWindow, Rule.restockingFee,
      Rule.returnRating, Rule.active, hgiven]

/-- Only a final sale without a warranty is a failed blocker. -/
theorem isFailedBlocker_eq_of_mem {f : Finding} (hf : f ∈ (assess policy warranty).findings) :
    f.isFailedBlocker = decide (f.ruleId = Rule.finalSaleNoWarranty.id) := by
  simp only [findings_assess, List.mem_append, List.mem_ite_nil_right, List.mem_singleton] at hf
  rcases hf with ((⟨_, rfl⟩ | ⟨_, rfl⟩) | ⟨_, rfl⟩) | rfl
  · cases warranty.isGiven <;>
      simp [finalSaleFinding, Rule.finalSale, Rule.finalSaleNoWarranty, Rule.active]
  · simp [windowFinding, Rule.shortWindow, Rule.finalSaleNoWarranty, Rule.active]
  · simp [feeFinding, Rule.restockingFee, Rule.finalSaleNoWarranty, Rule.active]
  · simp [ratingFinding, Rule.returnRating, Rule.finalSaleNoWarranty, Rule.active]

theorem agrees_assess : Agrees policy (assess policy warranty) where
  blocker := by
    rw [flags_finalSaleNoWarranty]
    exact if_congr (policy.rating_eq_redFlag_iff warranty.isGiven).symm rfl rfl
  isFailedBlocker_eq _ hf := isFailedBlocker_eq_of_mem policy warranty hf
  rating := by rw [flags_returnRating, passed_ratingFinding]
  last := by
    rw [findings_assess, List.getLast?_concat]
    rfl
  concerns := forall₂_concerns policy warranty

end Recourse

/-! ## All stages -/

/-- **Results and findings never disagree**, whatever the stages are applied to. The damage and the price tell
the flags of their rules. The condition tells the messages of what failed. The warranties tell a gap where a
warning is made of it. The terms of return are a red flag where their blocker is found, and their concerns are
their findings. And the stages behind the gates find nothing that is not passed. -/
theorem results_agree_with_findings (damage : Damage) (installation : Installation) (appliance : Appliance)
    (tier : DamageTier) (inspection : Option Inspection) (warranty : Warranty) (savings : Float)
    (policy : ReturnPolicy) (deal : Deal) (price : Price) (findings : List Finding)
    (tolerance : RiskTolerance) :
    flags Rule.damageExposure (Visibility.assess damage installation).findings
        = [(Visibility.assess damage installation).result.acceptable]
      ∧ flags Rule.discountForTier (Price.assess appliance tier).findings
        = [(Price.assess appliance tier).result.meetsExpectation]
      ∧ Condition.Agrees (Condition.assess inspection)
      ∧ Protection.Agrees (Protection.assess warranty savings)
      ∧ Recourse.Agrees policy (Recourse.assess policy warranty)
      ∧ (Bargaining.assess deal tier price).findings.all Finding.passed = true
      ∧ (Delivery.assess appliance installation).findings.all Finding.passed = true
      ∧ (Verdict.assess findings tolerance).findings.all Finding.passed = true := by
  refine ⟨Visibility.flags_damageExposure damage installation, Price.flags_discountForTier appliance tier,
    Condition.agrees_assess inspection, Protection.agrees_assess warranty savings,
    Recourse.agrees_assess policy warranty, ?_, ?_, ?_⟩
  · exact List.all_eq_true.mpr fun _ hf => Bargaining.passed_of_mem_assess hf
  · exact List.all_eq_true.mpr fun _ hf => Delivery.passed_of_mem_assess hf
  · exact List.all_eq_true.mpr fun _ hf => Verdict.passed_of_mem_assess hf

end Appraisal
