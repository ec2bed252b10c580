/-
The laws of the aggregator, for any list of findings whatever stage they come from.

A verdict on findings looks at two counts, the failed blockers and the failed warnings. Its first law is what
the counts make of it: one failed blocker forces the verdict, and without one the number of failed warnings
decides alone. Its second law is that findings that were passed can be added without a trace, and that all
findings but the failures can be left out. What a buyer tolerates changes the recommendation and never the
confidence.

Counts are words of thirty-two bits, so the laws about counts ask for a list of fewer than
`UInt32.size` findings.
-/
import Mathlib.Data.List.Basic
import Appraisal.Assessment.Verdict

set_option autoImplicit false

namespace Appraisal

/-! ## What a finding weighs -/

section Weights

variable (rule : Rule) (passed : Bool) (message : String) (inputs outputs : List String)

@[simp] theorem Rule.ruleId_finding :
    (rule.finding passed message inputs outputs).ruleId = rule.id := rfl

@[simp] theorem Rule.passed_finding :
    (rule.finding passed message inputs outputs).passed = passed := rfl

@[simp] theorem Rule.isFailedBlocker_finding :
    (rule.finding passed message inputs outputs).isFailedBlocker
      = (decide (rule.severity = .blocker) && !passed) := rfl

@[simp] theorem Rule.isFailedWarning_finding :
    (rule.finding passed message inputs outputs).isFailedWarning
      = (decide (rule.severity = .warning) && !passed) := rfl

end Weights

namespace Finding

theorem isFailedBlocker_of_passed {f : Finding} (h : f.passed = true) :
    f.isFailedBlocker = false := by
  simp [isFailedBlocker, h]

theorem isFailedWarning_of_passed {f : Finding} (h : f.passed = true) :
    f.isFailedWarning = false := by
  simp [isFailedWarning, h]

theorem find?_isFailedBlocker_of_passed {findings : List Finding}
    (h : ∀ f ∈ findings, f.passed = true) : findings.find? isFailedBlocker = none := by
  rw [List.find?_eq_none]
  intro f hf
  rw [isFailedBlocker_of_passed (h f hf)]
  exact Bool.false_ne_true

theorem countP_isFailedWarning_of_passed {findings : List Finding}
    (h : ∀ f ∈ findings, f.passed = true) : findings.countP isFailedWarning = 0 := by
  rw [List.countP_eq_zero]
  intro f hf
  rw [isFailedWarning_of_passed (h f hf)]
  exact Bool.false_ne_true

/-- What weighs in a verdict is a failed blocker or a failed warning, and never both. -/
theorem countP_isFailure (findings : List Finding) :
    findings.countP isFailure
      = findings.countP isFailedBlocker + findings.countP isFailedWarning := by
  induction findings with
  | nil => rfl
  | cons f rest ih =>
      have hone : (if f.isFailure then 1 else 0)
          = (if f.isFailedBlocker then 1 else 0) + if f.isFailedWarning then 1 else 0 := by
        obtain ⟨_, severity, passed, _, _, _⟩ := f
        cases severity <;> cases passed <;> rfl
      rw [List.countP_cons, List.countP_cons, List.countP_cons, ih]
      omega

end Finding

/-! ## The order of recommendations -/

namespace Recommendation

/-- How good a recommendation is for the deal. -/
def rank : Recommendation → Nat
  | walkAway => 0
  | skip => 1
  | proceedWithCaution => 2
  | proceed => 3

/-- Walking away is below skipping, skipping below caution, and caution below going ahead. -/
instance : LE Recommendation :=
  ⟨fun worse better => worse.rank ≤ better.rank⟩

instance (worse better : Recommendation) : Decidable (worse ≤ better) :=
  inferInstanceAs (Decidable (worse.rank ≤ better.rank))

theorem walkAway_le (r : Recommendation) : walkAway ≤ r :=
  Nat.zero_le r.rank

/-- The recommendation for so many warnings, when no blocker failed and `skip` warnings are too many. -/
def ofWarnings (warnings skip : Nat) : Recommendation :=
  if warnings = 0 then .proceed
  else if warnings < skip then .proceedWithCaution
  else .skip

/-- More warnings and less tolerance never make for a better recommendation. -/
theorem ofWarnings_le {many few strict lax : Nat} (hwarnings : few ≤ many) (hskip : strict ≤ lax) :
    ofWarnings many strict ≤ ofWarnings few lax := by
  change (ofWarnings many strict).rank ≤ (ofWarnings few lax).rank
  unfold ofWarnings
  by_cases hfew : few = 0
  · -- nothing ranks higher than going ahead
    rw [if_pos hfew]
    split_ifs <;> simp [rank]
  · rw [if_neg hfew, if_neg (by omega : ¬ many = 0)]
    by_cases hlax : few < lax
    · rw [if_pos hlax]
      split_ifs <;> simp [rank]
    · have hstrict : ¬ many < strict := by omega
      simp [hlax, hstrict]

end Recommendation

/-- The confidence that goes with so many warnings, when no blocker failed. -/
def Confidence.ofWarnings (warnings : Nat) : Confidence :=
  if warnings = 0 then .high
  else if warnings = 1 then .medium
  else .low

namespace Verdict

/-! ## Counting -/

/-- Counting loses nothing as long as the list is not absurdly long. -/
theorem toNat_count {findings : List Finding} (h : findings.length < UInt32.size) :
    (count findings).toNat = findings.length := by
  rw [count, UInt32.toNat_ofNat_of_lt' h]

/-- The count of the findings of some kind, which is how failed blockers and failed warnings are counted. -/
theorem toNat_count_filter {findings : List Finding} (p : Finding → Bool)
    (h : findings.length < UInt32.size) :
    (count (findings.filter p)).toNat = findings.countP p := by
  have hfilter : (findings.filter p).length < UInt32.size :=
    Nat.lt_of_le_of_lt (List.length_filter_le _ _) h
  rw [toNat_count hfilter, List.countP_eq_length_filter]

/-! ## A failed blocker forces the verdict -/

/-- The recommendation with at least one failed blocker. -/
theorem recommend_of_pos {blockers : UInt32} (h : 0 < blockers.toNat) (warnings : UInt32)
    (tolerance : RiskTolerance) :
    recommend blockers warnings (.of tolerance) = .walkAway := by
  have hge : blockers ≥ (Limits.of tolerance).blockers := by
    rw [ge_iff_le, UInt32.le_iff_toNat_le]
    exact h
  rw [recommend, if_pos hge]

/-- **The two ways to a verdict agree.** Aggregating findings of which `blocker` is the first failed blocker
gives the verdict that `blocker` forces, but for the mark that it was forced. -/
theorem assess_of_blocker {findings : List Finding} {blocker : Finding}
    (hfirst : findings.find? Finding.isFailedBlocker = some blocker)
    (hlength : findings.length < UInt32.size) (tolerance : RiskTolerance) :
    (assess findings tolerance).result
      = { forced blocker findings tolerance with forcedByHalt := false } := by
  have hpos : 0 < (count (blockersIn findings)).toNat := by
    rw [blockersIn, toNat_count_filter _ hlength, List.countP_pos_iff]
    exact ⟨blocker, List.mem_of_find?_eq_some hfirst, List.find?_some hfirst⟩
  -- the summary quotes the head of the failed blockers, which is the first one of the list
  have hhead : (blockersIn findings).head? = some blocker := by
    rw [blockersIn, List.head?_filter, hfirst]
  simp only [assess, recommend_of_pos hpos, hhead]
  rfl

/-! ## Without a blocker the warnings decide -/

/-- The recommendation without a failed blocker. -/
theorem recommend_zero (warnings : UInt32) (tolerance : RiskTolerance) :
    recommend 0 warnings (.of tolerance)
      = .ofWarnings warnings.toNat tolerance.skipThreshold.toNat := by
  have hblockers : ¬ (0 : UInt32) ≥ (Limits.of tolerance).blockers := by
    show ¬ Threshold.blockers ≤ 0
    decide
  have hskip : 0 < tolerance.skipThreshold.toNat := by
    cases tolerance <;> decide
  -- the limits are compared as words, and the numbers of warnings as naturals
  have htoo : warnings ≥ (Limits.of tolerance).skip
      ↔ tolerance.skipThreshold.toNat ≤ warnings.toNat := UInt32.le_iff_toNat_le
  have hany : warnings ≥ (Limits.of tolerance).caution ↔ 1 ≤ warnings.toNat := UInt32.le_iff_toNat_le
  rw [recommend, if_neg hblockers, Recommendation.ofWarnings]
  simp only [htoo, hany]
  split_ifs <;> first | rfl | omega

/-- The confidence without a failed blocker. -/
theorem confidenceOf_ofWarnings (warnings : UInt32) (skip : Nat) :
    confidenceOf (.ofWarnings warnings.toNat skip) warnings = .ofWarnings warnings.toNat := by
  have hone : warnings = 1 ↔ warnings.toNat = 1 := UInt32.toNat_inj.symm
  unfold Recommendation.ofWarnings Confidence.ofWarnings
  by_cases hzero : warnings.toNat = 0
  · rw [if_pos hzero, if_pos hzero, confidenceOf]
  · rw [if_neg hzero, if_neg hzero]
    split_ifs with hskip <;> simp_all [confidenceOf]

/-- **The verdict on findings without a failed blocker** is a function of the number of failed warnings. -/
theorem assess_of_clear {findings : List Finding}
    (hclear : findings.find? Finding.isFailedBlocker = none)
    (hlength : findings.length < UInt32.size) (tolerance : RiskTolerance) :
    let verdict := (assess findings tolerance).result
    let warnings := findings.countP Finding.isFailedWarning
    verdict.failedBlockers = 0
      ∧ verdict.failedWarnings.toNat = warnings
      ∧ verdict.recommendation = .ofWarnings warnings tolerance.skipThreshold.toNat
      ∧ verdict.confidence = .ofWarnings warnings := by
  have hblockers : blockersIn findings = [] := by
    rw [blockersIn, List.filter_eq_nil_iff]
    exact List.find?_eq_none.mp hclear
  have hzero : count (blockersIn findings) = 0 := by rw [hblockers]; rfl
  have hwarnings : (count (warningsIn findings)).toNat
      = findings.countP Finding.isFailedWarning := toNat_count_filter _ hlength
  have hconfidence := confidenceOf_ofWarnings (count (warningsIn findings))
    tolerance.skipThreshold.toNat
  rw [hwarnings] at hconfidence
  simp only [assess, hzero, recommend_zero, hwarnings, true_and]
  exact hconfidence

/-! ## Passed findings leave no trace -/

/-- Findings that were passed can be added at the end without a change of the verdict. -/
theorem assess_append_passed {findings others : List Finding}
    (hpassed : ∀ f ∈ others, f.passed = true) (tolerance : RiskTolerance) :
    (assess (findings ++ others) tolerance).result = (assess findings tolerance).result := by
  have hblockers : blockersIn others = [] := by
    rw [blockersIn, List.filter_eq_nil_iff]
    exact List.find?_eq_none.mp (Finding.find?_isFailedBlocker_of_passed hpassed)
  have hwarnings : warningsIn others = [] := by
    rw [warningsIn, List.filter_eq_nil_iff]
    exact List.countP_eq_zero.mp (Finding.countP_isFailedWarning_of_passed hpassed)
  have hb : blockersIn (findings ++ others) = blockersIn findings := by
    rw [blockersIn, List.filter_append, ← blockersIn, ← blockersIn, hblockers, List.append_nil]
  have hw : warningsIn (findings ++ others) = warningsIn findings := by
    rw [warningsIn, List.filter_append, ← warningsIn, ← warningsIn, hwarnings, List.append_nil]
  simp only [assess, hb, hw]

/-! ## Only failures weigh -/

theorem blockersIn_filter_isFailure (findings : List Finding) :
    blockersIn (findings.filter Finding.isFailure) = blockersIn findings := by
  rw [blockersIn, List.filter_filter, blockersIn]
  refine List.filter_congr fun f _ => ?_
  obtain ⟨_, severity, passed, _, _, _⟩ := f
  cases severity <;> cases passed <;> rfl

theorem warningsIn_filter_isFailure (findings : List Finding) :
    warningsIn (findings.filter Finding.isFailure) = warningsIn findings := by
  rw [warningsIn, List.filter_filter, warningsIn]
  refine List.filter_congr fun f _ => ?_
  obtain ⟨_, severity, passed, _, _, _⟩ := f
  cases severity <;> cases passed <;> rfl

/-- A verdict looks at the findings that weigh and at no others. -/
theorem assess_filter_isFailure (findings : List Finding) (tolerance : RiskTolerance) :
    assess (findings.filter Finding.isFailure) tolerance = assess findings tolerance := by
  simp only [assess, blockersIn_filter_isFailure, warningsIn_filter_isFailure]

/-- So does a verdict that is forced. -/
theorem forced_filter_isFailure (blocker : Finding) (findings : List Finding) (tolerance : RiskTolerance) :
    forced blocker (findings.filter Finding.isFailure) tolerance = forced blocker findings tolerance := by
  simp only [forced, blockersIn_filter_isFailure, warningsIn_filter_isFailure]

/-! ## Tolerance -/

/-- The confidence of a recommendation does not depend on how much the buyer tolerates. -/
theorem confidenceOf_recommend (blockers warnings : UInt32) (tolerance tolerance' : RiskTolerance) :
    confidenceOf (recommend blockers warnings (.of tolerance)) warnings
      = confidenceOf (recommend blockers warnings (.of tolerance')) warnings := by
  by_cases hzero : blockers = 0
  · rw [hzero, recommend_zero, recommend_zero, confidenceOf_ofWarnings, confidenceOf_ofWarnings]
  · have hpos : 0 < blockers.toNat :=
      Nat.pos_of_ne_zero fun h => hzero (UInt32.toNat_inj.mp h)
    rw [recommend_of_pos hpos, recommend_of_pos hpos]

end Verdict

end Appraisal
