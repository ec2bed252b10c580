/-
An evaluation is the composition of its stages.

Each stage can be asked by itself what it makes of a deal. An evaluation asks them one after the other, hands
the tier of the damage to the price and to the negotiation, the savings to the warranties, and everything
that was found to the last stage. It adds nothing of its own: the trace holds what the stages that ran found,
one after the other, and every result of a stage that ran is the result which that stage gives by itself.

There are three ends, and at each of them the evaluation is put together anew. A stage is named in the trace
when it ran, also if it found nothing, as the safety stage does without an inspection.
-/
import Appraisal.Proofs.Gates

set_option autoImplicit false

namespace Appraisal.Deal

/-! ## What an initial stretch of the stages finds -/

section Stretches

variable (deal : Deal)

/-- Up to the first gate. -/
theorem findingsOf_take_three :
    deal.findingsOf (Stage.order.take 3)
      = deal.visibility.findings ++ deal.price.findings ++ deal.condition.findings := by
  simp [findingsOf, findingsAt, Stage.order]

/-- Up to the second gate. -/
theorem findingsOf_take_five :
    deal.findingsOf (Stage.order.take 5)
      = deal.visibility.findings ++ deal.price.findings ++ deal.condition.findings
        ++ deal.protection.findings ++ deal.recourse.findings := by
  simp [findingsOf, findingsAt, Stage.order]

end Stretches

/-! ## The composition -/

/-- **An evaluation is the composition of its stages.** Halted at the first gate, it holds what the first
three stages found, halted at the second what the first five found, and otherwise what all eight found, in
their order and with nothing lost, repeated or moved. It is halted nowhere else. Every result of a stage that
ran is what that stage makes of the deal by itself. -/
theorem evaluate_composes_stages (deal : Deal) (timestamp : String) :
    let out := deal.evaluate timestamp
    let d := Visibility.assess deal.damage deal.installation
    let p := Price.assess deal.appliance d.result.tier
    let s := Condition.assess deal.inspection
    let w := Protection.assess deal.warranty p.result.savings
    let r := Recourse.assess deal.returnPolicy deal.warranty
    let n := Bargaining.assess deal d.result.tier p.result
    let l := Delivery.assess deal.appliance deal.installation
    let earlier := d.findings ++ p.findings ++ s.findings ++ w.findings ++ r.findings ++ n.findings
      ++ l.findings
    let v := Verdict.assess earlier deal.buyer.riskTolerance
    ((out.trace.haltedAt = some .safety
          ∧ out.trace.stages = [.damage, .pricing, .safety]
          ∧ out.trace.findings = d.findings ++ p.findings ++ s.findings)
        ∨ (out.trace.haltedAt = some .returns
          ∧ out.trace.stages = [.damage, .pricing, .safety, .warranty, .returns]
          ∧ out.trace.findings
            = d.findings ++ p.findings ++ s.findings ++ w.findings ++ r.findings)
        ∨ (out.trace.haltedAt = none
          ∧ out.trace.stages
            = [.damage, .pricing, .safety, .warranty, .returns, .negotiation, .logistics, .verdict]
          ∧ out.trace.findings = earlier ++ v.findings))
      ∧ out.visibility = d.result
      ∧ out.price = p.result
      ∧ out.condition = s.result
      ∧ (.warranty ∈ out.trace.stages → out.protection = .evaluated w.result)
      ∧ (.returns ∈ out.trace.stages → out.recourse = .evaluated r.result)
      ∧ (.negotiation ∈ out.trace.stages → out.bargaining = .evaluated n.result)
      ∧ (.logistics ∈ out.trace.stages → out.delivery = .evaluated l.result)
      ∧ (.verdict ∈ out.trace.stages → out.verdict = v.result) := by
  intro out d p s w r n l earlier v
  rcases deal.evaluate_cases timestamp with
    ⟨blocker, _, heq⟩ | ⟨blocker, _, _, heq⟩ | ⟨_, _, heq⟩
  · -- halted at the first gate: none of the later stages ran
    have hout : out = _ := heq
    have hstages : out.trace.stages = Stage.order.take 3 := by
      rw [hout, stages_haltedAt]
    have hfindings : out.trace.findings = deal.findingsOf (Stage.order.take 3) := by
      rw [hout, findings_haltedAt]
    rw [hstages, hfindings, findingsOf_take_three, hout]
    refine ⟨Or.inl ⟨rfl, rfl, rfl⟩, rfl, rfl, rfl, ?_, ?_, ?_, ?_, ?_⟩
    all_goals exact fun hran => absurd hran (by decide)
  · -- halted at the second gate: the two stages in between ran
    have hout : out = _ := heq
    have hstages : out.trace.stages = Stage.order.take 5 := by
      rw [hout, stages_haltedAt]
    have hfindings : out.trace.findings = deal.findingsOf (Stage.order.take 5) := by
      rw [hout, findings_haltedAt]
    rw [hstages, hfindings, findingsOf_take_five, hout]
    refine ⟨Or.inr (Or.inl ⟨rfl, rfl, rfl⟩), rfl, rfl, rfl, fun _ => rfl, fun _ => rfl, ?_, ?_, ?_⟩
    all_goals exact fun hran => absurd hran (by decide)
  · have hout : out = _ := heq
    have hstages : out.trace.stages = Stage.order := by
      rw [hout, stages_complete]
    have hfindings : out.trace.findings = deal.findingsOf Stage.order := by
      rw [hout, findings_complete]
    rw [hstages, hfindings, findingsOf_order, hout]
    exact ⟨Or.inr (Or.inr ⟨rfl, rfl, rfl⟩), rfl, rfl, rfl, fun _ => rfl, fun _ => rfl, fun _ => rfl,
      fun _ => rfl, fun _ => rfl⟩

/-- Nobody looked at the range, so the safety stage finds nothing. It is named in the trace all the same, and
the stages behind it give the results that they give by themselves. -/
theorem chippedRange_composes :
    let out := Sample.chippedRange.deal.evaluate "2025-06-01T12:00:00Z"
    (Condition.assess Sample.chippedRange.deal.inspection).findings = []
      ∧ .safety ∈ out.trace.stages
      ∧ .warranty ∈ out.trace.stages
      ∧ out.protection
        = .evaluated (Protection.assess Sample.chippedRange.deal.warranty
            Sample.chippedRange.deal.price.result.savings).result := by
  intro out
  have hhalt : Sample.chippedRange.deal.halt? = none := (halt?_eq_none_iff _).mpr ⟨by decide, by decide⟩
  have hran : ∀ stage, stage ∈ out.trace.stages := mem_stages_of_halt?_eq_none _ _ hhalt
  obtain ⟨_, _, _, _, hprotection, _⟩ :=
    evaluate_composes_stages Sample.chippedRange.deal "2025-06-01T12:00:00Z"
  exact ⟨rfl, hran .safety, hran .warranty, hprotection (hran .warranty)⟩

end Appraisal.Deal
