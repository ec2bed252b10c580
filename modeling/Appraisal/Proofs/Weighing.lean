/-
What a verdict on findings depends on, and how.

The aggregator is given any list of findings, also such as no stage makes. It weighs the failures among them and
nothing else: what was passed or is only for information may stand anywhere in the list or be missing
(`Padded.assess_eq`). The order of the failures shows in the reasons of the summary, and nowhere else
(`assess_perm`). With each finding more a verdict can get worse and never better (`recommendation_insert_le`).

That last law is the one that needs the counts to be true. They are words of thirty-two bits, so that `2 ^ 32`
failed warnings would be counted as none and the deal recommended (`recommendation_of_wrapped_count`). No list in
a memory is that long.
-/
import Mathlib.Data.List.Basic
import Appraisal.Proofs.Aggregate

set_option autoImplicit false

namespace Appraisal

/-! ## Findings that weigh nothing -/

namespace Finding

/-- A finding that was passed or is only for information. -/
def IsWeightless (f : Finding) : Prop :=
  f.passed = true ∨ f.severity = .info

instance (f : Finding) : Decidable f.IsWeightless :=
  inferInstanceAs (Decidable (_ ∨ _))

/-- What weighs nothing is what is no failure. -/
theorem isFailure_of_isWeightless {f : Finding} (h : f.IsWeightless) : f.isFailure = false := by
  rcases h with hpassed | hinfo
  · simp [isFailure, hpassed]
  · simp [isFailure, hinfo]

end Finding

/-- The second list is the first one with findings added anywhere that weigh nothing. -/
inductive Padded : List Finding → List Finding → Prop where
  | nil : Padded [] []
  | keep {findings padded : List Finding} (f : Finding) (rest : Padded findings padded) :
    Padded (f :: findings) (f :: padded)
  | add {findings padded : List Finding} {f : Finding} (weightless : f.IsWeightless)
    (rest : Padded findings padded) : Padded findings (f :: padded)

theorem Padded.filter_isFailure {findings padded : List Finding} (h : Padded findings padded) :
    padded.filter Finding.isFailure = findings.filter Finding.isFailure := by
  induction h with
  | nil => rfl
  | keep f _ ih => rw [List.filter_cons, List.filter_cons, ih]
  | add weightless _ ih =>
      rw [List.filter_cons_of_neg (by simp [Finding.isFailure_of_isWeightless weightless]), ih]

/-- Findings that weigh nothing do not show in a verdict. -/
theorem Padded.assess_eq {findings padded : List Finding} (h : Padded findings padded)
    (tolerance : RiskTolerance) : Verdict.assess padded tolerance = Verdict.assess findings tolerance := by
  rw [← Verdict.assess_filter_isFailure padded, h.filter_isFailure, Verdict.assess_filter_isFailure]

namespace Verdict

/-! ## The order of findings -/

theorem count_filter_perm {findings others : List Finding} (h : others.Perm findings)
    (p : Finding → Bool) : count (others.filter p) = count (findings.filter p) := by
  rw [count, count, (h.filter p).length_eq]

/-- The order of the findings shows in the summary alone. -/
theorem assess_perm {findings others : List Finding} (h : others.Perm findings)
    (tolerance : RiskTolerance) :
    (assess others tolerance).result
      = { (assess findings tolerance).result with
          summary := (assess others tolerance).result.summary } := by
  have hblockers : count (blockersIn others) = count (blockersIn findings) := count_filter_perm h _
  have hwarnings : count (warningsIn others) = count (warningsIn findings) := count_filter_perm h _
  simp only [assess, hblockers, hwarnings]

/-! ## More findings -/

/-- Findings of a kind that are not absurdly many are counted truly. -/
theorem toNat_count_filter_of_countP_lt {findings : List Finding} {p : Finding → Bool}
    (h : findings.countP p < UInt32.size) : (count (findings.filter p)).toNat = findings.countP p := by
  rw [List.countP_eq_length_filter] at h ⊢
  exact toNat_count h

/-- The failures of either kind are not so many that counting them in a word goes wrong. -/
structure CountsTruly (findings : List Finding) : Prop where
  blockers : findings.countP Finding.isFailedBlocker < UInt32.size
  warnings : findings.countP Finding.isFailedWarning < UInt32.size

theorem CountsTruly.of_length {findings : List Finding} (h : findings.length < UInt32.size) :
    CountsTruly findings where
  blockers := Nat.lt_of_le_of_lt List.countP_le_length h
  warnings := Nat.lt_of_le_of_lt List.countP_le_length h

/-- **The recommendation by the failures of either kind.** -/
theorem recommendation_assess {findings : List Finding} (h : CountsTruly findings) (tolerance : RiskTolerance) :
    (assess findings tolerance).result.recommendation
      = if findings.countP Finding.isFailedBlocker = 0 then
          .ofWarnings (findings.countP Finding.isFailedWarning) tolerance.skipThreshold.toNat
        else .walkAway := by
  have hblockers := toNat_count_filter_of_countP_lt h.blockers
  have hwarnings := toNat_count_filter_of_countP_lt h.warnings
  show recommend (count (blockersIn findings)) (count (warningsIn findings)) _ = _
  split_ifs with hnone
  · have hzero : count (blockersIn findings) = 0 := by
      rw [← UInt32.toNat_inj]
      exact hblockers.trans hnone
    rw [hzero, recommend_zero]
    exact congrArg (Recommendation.ofWarnings · _) hwarnings
  · exact recommend_of_pos (by rw [blockersIn, hblockers]; omega) _ _

/-- **One failed blocker is enough to walk away**, and nothing else is. -/
theorem recommendation_eq_walkAway {findings : List Finding} (h : CountsTruly findings)
    (tolerance : RiskTolerance) :
    (assess findings tolerance).result.recommendation = .walkAway
      ↔ ∃ f ∈ findings, f.isFailedBlocker = true := by
  rw [recommendation_assess h, ← List.countP_pos_iff]
  split_ifs with hnone
  · refine iff_of_false ?_ (by omega)
    unfold Recommendation.ofWarnings
    split_ifs <;> simp
  · exact iff_of_true rfl (by omega)

/-- **One more finding never makes for a better recommendation.** -/
theorem recommendation_insert_le {before behind : List Finding} {f : Finding}
    (h : CountsTruly (before ++ f :: behind)) (tolerance : RiskTolerance) :
    (assess (before ++ f :: behind) tolerance).result.recommendation
      ≤ (assess (before ++ behind) tolerance).result.recommendation := by
  have hmore : ∀ p : Finding → Bool, (before ++ behind).countP p ≤ (before ++ f :: behind).countP p := by
    intro p
    exact ((List.sublist_cons_self f behind).append_left before).countP_le
  have hfewer : CountsTruly (before ++ behind) :=
    ⟨Nat.lt_of_le_of_lt (hmore _) h.blockers, Nat.lt_of_le_of_lt (hmore _) h.warnings⟩
  rw [recommendation_assess h, recommendation_assess hfewer]
  have hblockers := hmore Finding.isFailedBlocker
  split_ifs with hnone hfew
  · exact Recommendation.ofWarnings_le (hmore _) (Nat.le_refl _)
  · omega
  · exact Recommendation.walkAway_le _
  · exact Recommendation.walkAway_le _

/-- Where the counts are no longer true, the recommendation is not either: `2 ^ 32` failed warnings are counted
as none. -/
theorem recommendation_of_wrapped_count {f : Finding} (hf : f.isFailedWarning = true)
    (tolerance : RiskTolerance) :
    (assess (List.replicate UInt32.size f) tolerance).result.recommendation = .proceed := by
  have hblocker : f.isFailedBlocker = false := by
    obtain ⟨_, severity, passed, _, _, _⟩ := f
    cases severity <;> simp_all [Finding.isFailedBlocker, Finding.isFailedWarning]
  have hblockers : count (blockersIn (List.replicate UInt32.size f)) = 0 := by
    rw [blockersIn, List.filter_replicate, hblocker]
    rfl
  have hwarnings : count (warningsIn (List.replicate UInt32.size f)) = 0 := by
    rw [warningsIn, List.filter_replicate, if_pos hf, count, List.length_replicate]
    rfl
  show recommend (count (blockersIn _)) (count (warningsIn _)) _ = _
  rw [hblockers, hwarnings, recommend_zero]
  rfl

/-! ## The laws of the aggregator -/

/-- **What a verdict depends on.** For every list of fewer than `2 ^ 32` findings and every tolerance:

* findings that were passed or are only for information change nothing, wherever they are added or left out;
* the order of the findings changes neither the recommendation nor the confidence nor the counts;
* one finding more, at any place, never makes for a better recommendation, as long as the failures of either
  kind can still be counted;
* the recommendation is to walk away exactly if some blocker failed;
* and then the verdict that the first failed blocker forces is the same one, marked as forced. -/
theorem assess_weighs_failures (findings : List Finding) (tolerance : RiskTolerance)
    (hlength : findings.length < UInt32.size) :
    let verdict := fun findings => (assess findings tolerance).result
    (∀ others, Padded findings others ∨ Padded others findings → verdict others = verdict findings)
      ∧ (∀ others, others.Perm findings →
          (verdict others).recommendation = (verdict findings).recommendation
            ∧ (verdict others).confidence = (verdict findings).confidence
            ∧ (verdict others).failedBlockers = (verdict findings).failedBlockers
            ∧ (verdict others).failedWarnings = (verdict findings).failedWarnings)
      ∧ (∀ before behind f, findings = before ++ behind → CountsTruly (before ++ f :: behind) →
          (verdict (before ++ f :: behind)).recommendation ≤ (verdict findings).recommendation)
      ∧ ((verdict findings).recommendation = .walkAway ↔ ∃ f ∈ findings, f.isFailedBlocker = true)
      ∧ (∀ blocker, findings.find? Finding.isFailedBlocker = some blocker →
          forced blocker findings tolerance = { verdict findings with forcedByHalt := true }) := by
  intro verdict
  refine ⟨?_, ?_, ?_, recommendation_eq_walkAway (.of_length hlength) tolerance, ?_⟩
  · rintro others (hpadded | hpadded)
    · exact congrArg Assessed.result (hpadded.assess_eq tolerance)
    · exact congrArg Assessed.result (hpadded.assess_eq tolerance).symm
  · intro others hperm
    have hsame : verdict others = { verdict findings with summary := (verdict others).summary } :=
      assess_perm hperm tolerance
    rw [hsame]
    exact ⟨rfl, rfl, rfl, rfl⟩
  · rintro before behind f rfl hcounts
    exact recommendation_insert_le hcounts tolerance
  · intro blocker hfirst
    show _ = { (assess findings tolerance).result with forcedByHalt := true }
    rw [assess_of_blocker hfirst hlength]
    rfl

/-- Findings of rules that were never published are weighed like all others: a failed remark weighs nothing, and
a failed blocker makes a deal one to walk away from that a warning alone had left open. -/
theorem damp_and_loud_weighed :
    let loud : Finding := ⟨"CELLAR.NOISE.LOUD_V1", .warning, false, "Loud pump", [], []⟩
    let damp : Finding := ⟨"CELLAR.WALLS.DAMP_V1", .blocker, false, "Damp walls", [], []⟩
    let dark : Finding := ⟨"CELLAR.LIGHT.DARK_V1", .info, false, "No window", [], []⟩
    let verdict := fun findings => (assess findings .low).result
    [loud, damp].length < UInt32.size
      ∧ Padded [loud, damp] [loud, dark, damp] ∧ verdict [loud, dark, damp] = verdict [loud, damp]
      ∧ [damp, loud].Perm [loud, damp]
      ∧ (verdict [damp, loud]).failedWarnings = (verdict [loud, damp]).failedWarnings
      ∧ CountsTruly ([loud] ++ damp :: []) ∧ [loud].length < UInt32.size
      ∧ (verdict ([loud] ++ damp :: [])).recommendation ≤ (verdict [loud]).recommendation
      ∧ (verdict [loud, damp]).recommendation = .walkAway
      ∧ [loud, damp].find? Finding.isFailedBlocker = some damp
      ∧ forced damp [loud, damp] .low = { verdict [loud, damp] with forcedByHalt := true } := by
  intro loud damp dark verdict
  have hlength : [loud, damp].length < UInt32.size := by decide
  have hloud : [loud].length < UInt32.size := by decide
  have hpadded : Padded [loud, damp] [loud, dark, damp] :=
    .keep loud (.add (Or.inr rfl) (.keep damp .nil))
  have hperm : [damp, loud].Perm [loud, damp] := List.Perm.swap loud damp []
  have hcounts : CountsTruly ([loud] ++ damp :: []) := .of_length (by decide)
  obtain ⟨hsame, horder, -, hwalk, hforced⟩ := assess_weighs_failures [loud, damp] .low hlength
  obtain ⟨-, -, hmore, -, -⟩ := assess_weighs_failures [loud] .low hloud
  exact ⟨hlength, hpadded, hsame _ (Or.inl hpadded), hperm, (horder _ hperm).2.2.2, hcounts, hloud,
    hmore [loud] [] damp rfl hcounts, hwalk.mpr ⟨damp, by simp, rfl⟩, rfl, hforced damp rfl⟩

end Verdict

end Appraisal
