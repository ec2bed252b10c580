/-
The audit of an evaluation: its verdict follows from its trace.

A verdict comes about in two ways. At the end of an evaluation the last stage aggregates what the stages
before it found; at a gate the finding that stops the deal forces the verdict, and nothing is aggregated. An
auditor has only the trace and does not know which of the two it was. Aggregating all findings of the trace
gives the verdict in both cases, because the finding of the gate is the first failed blocker of the trace,
and because a deal that no gate stopped has no failed blocker at all.
-/
import Appraisal.Proofs.Course

set_option autoImplicit false

namespace Appraisal.Deal

variable (deal : Deal) (timestamp : String)

/-! ## The two cases of an audit -/

/-- A trace is halted if a gate stopped the deal. -/
theorem isHalted_evaluate : (deal.evaluate timestamp).trace.isHalted = deal.halt?.isSome := by
  rw [trace_evaluate, Trace.isHalted, Ledger.trace, Option.isSome_map]

/-- An evaluation is marked as forced if a gate stopped the deal. -/
theorem forcedByHalt_evaluate :
    (deal.evaluate timestamp).verdict.forcedByHalt = deal.halt?.isSome := by
  cases hhalt : deal.halt? with
  | some halt => rw [verdict_evaluate_of_some deal timestamp hhalt, Verdict.forced, Option.isSome_some]
  | none => rw [verdict_evaluate_of_none deal timestamp hhalt, conclusion, Verdict.assess, Option.isSome_none]

/-- Aggregating the findings of a trace gives the verdict of the evaluation, but for the mark that it was
forced. -/
theorem assess_findings_evaluate :
    (Verdict.assess (deal.evaluate timestamp).trace.findings deal.buyer.riskTolerance).result
      = { (deal.evaluate timestamp).verdict with forcedByHalt := false } := by
  rw [findings_trace_evaluate]
  cases hhalt : deal.halt? with
  | some halt =>
      have hfirst := deal.find?_findingsOf_course
      rw [hhalt, Option.map_some] at hfirst
      rw [verdict_evaluate_of_some deal timestamp hhalt,
        Verdict.assess_of_blocker hfirst deal.length_findingsOf_course_lt]
  | none =>
      rw [verdict_evaluate_of_none deal timestamp hhalt, deal.course_of_halt?_eq_none hhalt,
        assess_findingsOf_order]
      rfl

/-! ## The counts -/

/-- The two counts of a verdict are those of the findings in its trace. -/
theorem toNat_failed_evaluate :
    let verdict := (deal.evaluate timestamp).verdict
    verdict.failedBlockers.toNat = (deal.findingsOf deal.course).countP Finding.isFailedBlocker
      ∧ verdict.failedWarnings.toNat
        = (deal.findingsOf deal.course).countP Finding.isFailedWarning := by
  have hagain := deal.assess_findings_evaluate timestamp
  have hlength := deal.length_findingsOf_course_lt
  rw [findings_trace_evaluate] at hagain
  refine ⟨?_, ?_⟩
  · rw [← Verdict.toNat_count_filter _ hlength]
    exact congrArg (UInt32.toNat ∘ Verdict.failedBlockers) hagain.symm
  · rw [← Verdict.toNat_count_filter _ hlength]
    exact congrArg (UInt32.toNat ∘ Verdict.failedWarnings) hagain.symm

/-- A deal is to be walked away from exactly if a gate stopped it. Without a failed blocker the worst that
warnings can do is to have it skipped. -/
theorem recommendation_eq_walkAway_iff :
    (deal.evaluate timestamp).verdict.recommendation = .walkAway ↔ deal.halt?.isSome = true := by
  cases hhalt : deal.halt? with
  | some halt =>
      rw [verdict_evaluate_of_some deal timestamp hhalt]
      exact ⟨fun _ => rfl, fun _ => rfl⟩
  | none =>
      obtain ⟨_, _, _, hrecommendation, _⟩ := deal.verdict_of_clear timestamp hhalt
      rw [hrecommendation, Recommendation.ofWarnings]
      split_ifs <;> simp

/-! ## The audit -/

/-- **A verdict follows from the trace alone**, whether the deal was stopped or not. Aggregating all findings
of the trace gives the verdict, but for the mark that it was forced, and the mark says whether the trace is
halted. The two counts of the verdict add up to the failures that the trace lists, and exactly the halted
traces are those of deals to walk away from. -/
theorem verdict_follows_from_trace (deal : Deal) (timestamp : String) :
    let out := deal.evaluate timestamp
    (Verdict.assess out.trace.findings deal.buyer.riskTolerance).result
        = { out.verdict with forcedByHalt := false }
      ∧ out.verdict.forcedByHalt = out.trace.isHalted
      ∧ out.verdict.failedBlockers.toNat + out.verdict.failedWarnings.toNat
        = out.trace.failures.length
      ∧ (out.verdict.recommendation = .walkAway ↔ out.trace.isHalted = true) := by
  intro out
  refine ⟨deal.assess_findings_evaluate timestamp, ?_, ?_, ?_⟩
  · rw [forcedByHalt_evaluate, isHalted_evaluate]
  · obtain ⟨hblockers, hwarnings⟩ := deal.toNat_failed_evaluate timestamp
    rw [hblockers, hwarnings, ← Finding.countP_isFailure, Trace.failures,
      ← List.countP_eq_length_filter, findings_trace_evaluate]
  · rw [recommendation_eq_walkAway_iff, isHalted_evaluate]

end Appraisal.Deal
