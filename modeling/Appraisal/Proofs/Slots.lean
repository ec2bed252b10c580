/-
No part of an evaluation is made up.

Four results may be missing from an evaluation, because the stages that give them stand behind a gate. What
is in their place must not be mistaken for a result, and must not promise anything. So a slot is judged by
three questions. Does it hold a result exactly if its stage ran? Does it name the gate that halted the
evaluation? And is the placeholder no better than anything that the stage could have said of the deal?

The other way round, an evaluation with no slot skipped has been past both gates: the appliance was found to
be safe, and the terms of return are no red flag.
-/
import Appraisal.Proofs.Gates

set_option autoImplicit false

namespace Appraisal

/-! ## How favourable a result is -/

/-- Scores from the worst on. -/
def WarrantyScore.favour : WarrantyScore → Nat
  | unacceptable => 0
  | limited => 1
  | acceptable => 2
  | excellent => 3

/-- Risks from the highest on. -/
def RiskLevel.favour : RiskLevel → Nat
  | high => 0
  | medium => 1
  | low => 2

/-- Ratings from the worst on. -/
def ReturnRating.favour : ReturnRating → Nat
  | redFlag => 0
  | risky => 1
  | acceptable => 2
  | excellent => 3

/-- Odds from the lowest on. -/
def Odds.favour : Odds → Nat
  | unlikely => 0
  | low => 1
  | medium => 2
  | high => 3

/-- Methods of delivery from the one that costs more on. -/
def DeliveryMethod.favour : DeliveryMethod → Nat
  | professional => 0
  | either => 1

/-- The first assessment of the warranties promises no more than the second. -/
structure Protection.NoBetter (less more : Protection) : Prop where
  score : less.score.favour ≤ more.score.favour
  risk : less.risk.favour ≤ more.risk.favour

/-- The first assessment of the terms of return promises no more than the second. -/
structure Recourse.NoBetter (less more : Recourse) : Prop where
  rating : less.rating.favour ≤ more.rating.favour
  hasWarranty : less.hasWarranty = true → more.hasWarranty = true

/-- The first assessment of the room for a lower price promises no more than the second. -/
structure Bargaining.NoBetter (less more : Bargaining) : Prop where
  possible : less.possible = true → more.possible = true
  odds : less.odds.favour ≤ more.odds.favour
  score : less.score ≤ more.score

/-- The first plan for the delivery promises no more than the second. -/
structure Delivery.NoBetter (less more : Delivery) : Prop where
  method : less.method.favour ≤ more.method.favour

/-! ## Placeholders promise nothing -/

theorem Protection.placeholder_noBetter (result : Protection) : placeholder.NoBetter result where
  score := Nat.zero_le _
  risk := Nat.zero_le _

theorem Recourse.placeholder_noBetter (result : Recourse) : placeholder.NoBetter result where
  rating := Nat.zero_le _
  hasWarranty := fun hwarranty => absurd hwarranty Bool.false_ne_true

theorem Bargaining.placeholder_noBetter (askingPrice : Float) (result : Bargaining) :
    (placeholder askingPrice).NoBetter result where
  possible := fun hpossible => absurd hpossible Bool.false_ne_true
  odds := Nat.zero_le _
  score := UInt32.zero_le

theorem Delivery.placeholder_noBetter (result : Delivery) : placeholder.NoBetter result where
  method := Nat.zero_le _

/-! ## Slots -/

/-- A slot is settled by a trace: it holds a result exactly if its stage ran, and otherwise it names the gate
that halted the evaluation and holds something modest. -/
structure Slot.Settled {α : Type} (slot : Slot α) (stage : Stage) (trace : Trace)
    (IsModest : α → Prop) : Prop where
  isEvaluated_iff : slot.isEvaluated = true ↔ stage ∈ trace.stages
  of_skipped : ∀ placeholder gate, slot = .skipped placeholder gate →
    trace.haltedAt = some gate ∧ IsModest placeholder

namespace Slot

variable {α : Type} {stage : Stage} {trace : Trace} {IsModest : α → Prop}

theorem settled_evaluated (value : α) (hran : stage ∈ trace.stages) :
    (evaluated value).Settled stage trace IsModest where
  isEvaluated_iff := iff_of_true rfl hran
  of_skipped := fun _ _ hskipped => nomatch hskipped

theorem settled_skipped {placeholder : α} {gate : Stage} (hran : stage ∉ trace.stages)
    (hgate : trace.haltedAt = some gate) (hmodest : IsModest placeholder) :
    (skipped placeholder gate).Settled stage trace IsModest where
  isEvaluated_iff := iff_of_false Bool.false_ne_true hran
  of_skipped := by
    intro placeholder' gate' heq
    obtain ⟨rfl, rfl⟩ := skipped.inj heq
    exact ⟨hgate, hmodest⟩

end Slot

/-! ## What it takes to be past a gate -/

/-- A condition is passed exactly if the inspection, where there was one, found no hazard. -/
theorem Condition.passed_assess (inspection : Option Inspection) :
    (assess inspection).result.passed = !inspection.any Inspection.hasHazard := by
  cases inspection with
  | none => rfl
  | some inspection =>
      have hhazards : inspection.hasHazard
          = checks.any fun check => check.isFlagged inspection && check.isHazard := by
        rw [← Inspection.any_hazards, hazards_eq_checks, List.any_map, List.any_filter]
        simp only [Function.comp_apply, Bool.and_comm]
      have hpassed : (assess (some inspection)).result.passed
          = !checks.any fun check => check.isFlagged inspection && check.isHazard := by
        rw [Bool.eq_iff_iff]
        simp [assess, blockersOf, List.filter_eq_nil_iff]
      rw [hpassed, Option.any_some, hhazards]

/-- Terms of return are a red flag exactly if the sale is final and there is no warranty. -/
theorem ReturnPolicy.rating_eq_redFlag_iff (policy : ReturnPolicy) (hasWarranty : Bool) :
    policy.rating hasWarranty = .redFlag ↔ (policy.finalSale && !hasWarranty) = true := by
  unfold rating
  split_ifs with hflag <;> simp [hflag]

namespace Deal

variable (deal : Deal)

/-- A deal without a hazard passes the inspection. -/
theorem passed_of_stopAt (hsafety : deal.stopAt .safety = none) :
    deal.condition.result.passed = true := by
  rw [condition, Condition.passed_assess, Bool.not_eq_true']
  exact deal.stopAt_safety_eq_none_iff.mp hsafety

/-- A deal that leaves some recourse has terms of return that are no red flag. -/
theorem rating_of_stopAt (hreturns : deal.stopAt .returns = none) :
    deal.recourse.result.rating ≠ .redFlag := by
  intro hflag
  have hlacks : deal.lacksRecourse = true := by
    rw [lacksRecourse_eq]
    exact (ReturnPolicy.rating_eq_redFlag_iff _ _).mp hflag
  rw [stopAt_returns, if_pos hlacks] at hreturns
  exact absurd hreturns (Option.some_ne_none _)

/-! ## The four slots -/

/-- **An evaluation is never partial.** Each of the four slots holds a result exactly if its stage ran.
Otherwise it names the gate that halted the evaluation, and what it holds promises no more than anything
that the stage could have said of the deal, whatever the stages before it had handed on. With no slot skipped,
the appliance is safe and the terms of return are no red flag. -/
theorem evaluate_never_partial (deal : Deal) (timestamp : String) :
    let out := deal.evaluate timestamp
    (out.protection.Settled .warranty out.trace fun placeholder =>
        ∀ savings, placeholder.NoBetter (Protection.assess deal.warranty savings).result)
      ∧ (out.recourse.Settled .returns out.trace fun placeholder =>
          placeholder.NoBetter (Recourse.assess deal.returnPolicy deal.warranty).result)
      ∧ (out.bargaining.Settled .negotiation out.trace fun placeholder =>
          ∀ tier price, placeholder.NoBetter (Bargaining.assess deal tier price).result)
      ∧ (out.delivery.Settled .logistics out.trace fun placeholder =>
          placeholder.NoBetter (Delivery.assess deal.appliance deal.installation).result)
      ∧ (out.protection.isEvaluated = true → out.recourse.isEvaluated = true →
          out.bargaining.isEvaluated = true → out.delivery.isEvaluated = true →
          out.condition.passed = true ∧ out.recourse.value.rating ≠ .redFlag) := by
  intro out
  rcases deal.evaluate_cases timestamp with
    ⟨blocker, _, heq⟩ | ⟨blocker, _, _, heq⟩ | ⟨hsafety, hreturns, heq⟩
  · -- the first gate stands in front of all four stages
    have hout : out = _ := heq
    rw [hout]
    refine ⟨?_, ?_, ?_, ?_, fun hprotection => absurd hprotection Bool.false_ne_true⟩
    · exact Slot.settled_skipped (by simp [Stage.order]) rfl
        fun _ => Protection.placeholder_noBetter _
    · exact Slot.settled_skipped (by simp [Stage.order]) rfl (Recourse.placeholder_noBetter _)
    · exact Slot.settled_skipped (by simp [Stage.order]) rfl
        fun _ _ => Bargaining.placeholder_noBetter _ _
    · exact Slot.settled_skipped (by simp [Stage.order]) rfl (Delivery.placeholder_noBetter _)
  · -- the second gate lets the warranties and the terms of return through
    have hout : out = _ := heq
    rw [hout]
    refine ⟨?_, ?_, ?_, ?_, fun _ _ hbargaining => absurd hbargaining Bool.false_ne_true⟩
    · exact Slot.settled_evaluated _ (by simp [Stage.order])
    · exact Slot.settled_evaluated _ (by simp [Stage.order])
    · exact Slot.settled_skipped (by simp [Stage.order]) rfl
        fun _ _ => Bargaining.placeholder_noBetter _ _
    · exact Slot.settled_skipped (by simp [Stage.order]) rfl (Delivery.placeholder_noBetter _)
  · have hout : out = _ := heq
    rw [hout]
    refine ⟨?_, ?_, ?_, ?_, fun _ _ _ _ =>
      ⟨deal.passed_of_stopAt hsafety, deal.rating_of_stopAt hreturns⟩⟩
    all_goals exact Slot.settled_evaluated _ (by simp [Stage.order])

/-- The dryer is stopped at the second gate: its negotiation did not run, and the slot says which gate it was.
Nothing is skipped for the refrigerator, which therefore is safe to buy and can be brought back. -/
theorem samples_never_partial :
    let dryer := Sample.finalSaleDryer.deal.evaluate "2025-06-01T12:00:00Z"
    let refrigerator := Sample.dentedRefrigerator.deal.evaluate "2025-06-01T12:00:00Z"
    (dryer.bargaining = .skipped (.placeholder 350.0) .returns
        ∧ dryer.trace.haltedAt = some .returns
        ∧ .negotiation ∉ dryer.trace.stages)
      ∧ refrigerator.condition.passed = true
      ∧ refrigerator.recourse.value.rating ≠ .redFlag := by
  intro dryer refrigerator
  refine ⟨?_, ?_⟩
  · have hhalt : Sample.finalSaleDryer.deal.halt? = some (.returns, Recourse.finalSaleFinding false) :=
      halt?_of_lacksRecourse _ (by decide) (by decide)
    have hskipped : dryer.bargaining = .skipped (.placeholder 350.0) .returns := by
      rcases stopAt_of_halt? _ hhalt with ⟨hgate, _⟩ | ⟨_, hsafety, hreturns⟩
      · exact absurd hgate (by decide)
      · change (Deal.evaluate _ _).bargaining = _
        rw [evaluate_eq, hsafety, hreturns]
        rfl
    obtain ⟨_, _, hbargaining, _⟩ :=
      evaluate_never_partial Sample.finalSaleDryer.deal "2025-06-01T12:00:00Z"
    refine ⟨hskipped, (hbargaining.of_skipped _ _ hskipped).1, fun hran => ?_⟩
    have hevaluated : dryer.bargaining.isEvaluated = true := hbargaining.isEvaluated_iff.mpr hran
    rw [hskipped] at hevaluated
    exact Bool.false_ne_true hevaluated
  · have hhalt : Sample.dentedRefrigerator.deal.halt? = none :=
      (halt?_eq_none_iff _).mpr ⟨by decide, by decide⟩
    have hran : ∀ stage, stage ∈ refrigerator.trace.stages := mem_stages_of_halt?_eq_none _ _ hhalt
    obtain ⟨hprotection, hrecourse, hbargaining, hdelivery, hsafe⟩ :=
      evaluate_never_partial Sample.dentedRefrigerator.deal "2025-06-01T12:00:00Z"
    exact hsafe (hprotection.isEvaluated_iff.mpr (hran _)) (hrecourse.isEvaluated_iff.mpr (hran _))
      (hbargaining.isEvaluated_iff.mpr (hran _)) (hdelivery.isEvaluated_iff.mpr (hran _))

end Deal

end Appraisal
