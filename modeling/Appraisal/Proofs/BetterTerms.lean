/-
Better terms never make for a lower rating.

The score of the warranties and the rating of a policy are found by ladders whose rungs overlap: a covered
manufacturer is worth something by itself, and so are months by themselves. Which rung is reached is hard to
compare between two deals. So each grade is given the condition under which at least that grade is reached
(`Warranty.Earns`, `ReturnPolicy.Earns`). These conditions ask only for enough of something, and that is why
terms that are better in every respect meet whatever the worse ones meet.

The fee is a double. What is used of the order of doubles is that it is transitive, and that two doubles compare
equal if each is at most the other.
-/
import Appraisal.Proofs.DoubleOrder
import Appraisal.Proofs.Slots
import Appraisal.Samples

set_option autoImplicit false

namespace Appraisal

/-! ## Warranties -/

/-- The less a score is worth, the more risk is left to the buyer. -/
theorem WarrantyScore.favour_risk_le {less more : WarrantyScore} (h : less.favour ≤ more.favour) :
    less.risk.favour ≤ more.risk.favour := by
  cases less <;> cases more <;> first | decide | exact absurd h (by decide)

namespace Warranty

/-- The first warranties are no better than the second in anything that the score looks at. -/
structure NoBetter (less more : Warranty) : Prop where
  months : less.retailerMonths ≤ more.retailerMonths
  labor : less.laborIncluded = true → more.laborIncluded = true
  manufacturer : less.manufacturer = .covered → more.manufacturer = .covered

/-- What it takes to score at least so well. -/
def Earns (w : Warranty) : WarrantyScore → Prop
  | .unacceptable => True
  | .limited => w.manufacturer = .covered ∨ Threshold.warrantyLimitedMonths ≤ w.retailerMonths
  | .acceptable =>
    w.manufacturer = .covered
      ∨ Threshold.warrantyAcceptableMonths ≤ w.retailerMonths ∧ w.laborIncluded = true
  | .excellent =>
    w.manufacturer = .covered ∧ Threshold.warrantyExcellentMonths ≤ w.retailerMonths
      ∧ w.laborIncluded = true

/-- **The ladder of scores, rung by rung.** -/
theorem favour_le_score_iff (w : Warranty) (grade : WarrantyScore) :
    grade.favour ≤ w.score.favour ↔ w.Earns grade := by
  -- the months of a higher rung are enough for the rungs below it
  have hlimited : Threshold.warrantyAcceptableMonths ≤ w.retailerMonths →
      Threshold.warrantyLimitedMonths ≤ w.retailerMonths :=
    UInt32.le_trans (by decide)
  unfold score
  split_ifs with hexcellent hacceptable hlimited <;> cases grade <;>
    grind [Earns, Coverage.isCovered, WarrantyScore.favour]

theorem NoBetter.earns {less more : Warranty} (h : less.NoBetter more) {grade : WarrantyScore}
    (hearns : less.Earns grade) : more.Earns grade := by
  cases grade with
  | unacceptable => exact trivial
  | limited => exact hearns.imp h.manufacturer fun hmonths => UInt32.le_trans hmonths h.months
  | acceptable =>
      exact hearns.imp h.manufacturer fun ⟨hmonths, hlabor⟩ =>
        ⟨UInt32.le_trans hmonths h.months, h.labor hlabor⟩
  | excellent =>
      obtain ⟨hmaker, hmonths, hlabor⟩ := hearns
      exact ⟨h.manufacturer hmaker, UInt32.le_trans hmonths h.months, h.labor hlabor⟩

/-- **Better warranties never score lower.** -/
theorem NoBetter.favour_score_le {less more : Warranty} (h : less.NoBetter more) :
    less.score.favour ≤ more.score.favour :=
  (more.favour_le_score_iff _).mpr (h.earns ((less.favour_le_score_iff _).mp le_rfl))

end Warranty

/-! ## Terms of return -/

namespace ReturnPolicy

/-- The first policy is no better than the second in anything that the rating looks at. -/
structure NoBetter (less more : ReturnPolicy) : Prop where
  window : less.windowDays ≤ more.windowDays
  fee : more.restockingFeePercent ≤ less.restockingFeePercent
  finalSale : more.finalSale = true → less.finalSale = true

/-- What it takes to be rated at least so well. -/
def Earns (policy : ReturnPolicy) (hasWarranty : Bool) : ReturnRating → Prop
  | .redFlag => True
  | .risky => policy.finalSale = true → hasWarranty = true
  | .acceptable =>
    policy.finalSale = false ∧ Threshold.returnShortWindowDays ≤ policy.windowDays
      ∧ (Threshold.returnAcceptableWindowDays ≤ policy.windowDays ∨ policy.hasTolerableFee = true)
  | .excellent =>
    policy.finalSale = false ∧ Threshold.returnExcellentWindowDays ≤ policy.windowDays
      ∧ (policy.restockingFeePercent == 0.0) = true

/-- **The ladder of ratings, rung by rung.** -/
theorem favour_le_rating_iff (policy : ReturnPolicy) (hasWarranty : Bool) (grade : ReturnRating) :
    grade.favour ≤ (policy.rating hasWarranty).favour ↔ policy.Earns hasWarranty grade := by
  -- the window of a higher rung is long enough for the rungs below it
  have hacceptable : Threshold.returnExcellentWindowDays ≤ policy.windowDays →
      Threshold.returnAcceptableWindowDays ≤ policy.windowDays :=
    UInt32.le_trans (by decide)
  have hlong : Threshold.returnAcceptableWindowDays ≤ policy.windowDays →
      Threshold.returnShortWindowDays ≤ policy.windowDays :=
    UInt32.le_trans (by decide)
  have hshort : policy.isShort = true ↔ ¬Threshold.returnShortWindowDays ≤ policy.windowDays := by
    rw [isShort, decide_eq_true_eq, UInt32.not_le]
  unfold rating
  split_ifs <;> cases grade <;> grind [Earns, ReturnRating.favour]

/-- A fee that is no higher is tolerable where the higher one is. -/
theorem NoBetter.hasTolerableFee {less more : ReturnPolicy} (h : less.NoBetter more)
    (hfee : less.hasTolerableFee = true) : more.hasTolerableFee = true := by
  rw [ReturnPolicy.hasTolerableFee, decide_eq_true_eq] at hfee ⊢
  exact Binary64.float_le_trans h.fee hfee

/-- Where the higher fee is none, the lower one is none, unless it is less than nothing. -/
theorem NoBetter.fee_beq_zero {less more : ReturnPolicy} (h : less.NoBetter more)
    (hmore : 0.0 ≤ more.restockingFeePercent) (hfee : (less.restockingFeePercent == 0.0) = true) :
    (more.restockingFeePercent == 0.0) = true := by
  obtain ⟨hless, _⟩ := Binary64.float_beq_iff.mp hfee
  exact Binary64.float_beq_iff.mpr ⟨Binary64.float_le_trans h.fee hless, hmore⟩

theorem NoBetter.earns {less more : ReturnPolicy} (h : less.NoBetter more)
    (hmore : 0.0 ≤ more.restockingFeePercent) {given given' : Bool}
    (hgiven : given = true → given' = true) {grade : ReturnRating} (hearns : less.Earns given grade) :
    more.Earns given' grade := by
  have hreturnable : less.finalSale = false → more.finalSale = false := by
    rw [← Bool.not_eq_true, ← Bool.not_eq_true]
    exact mt h.finalSale
  cases grade with
  | redFlag => exact trivial
  | risky => exact fun hsale => hgiven (hearns (h.finalSale hsale))
  | acceptable =>
      obtain ⟨hsale, hwindow, hterms⟩ := hearns
      exact ⟨hreturnable hsale, UInt32.le_trans hwindow h.window,
        hterms.imp (UInt32.le_trans · h.window) h.hasTolerableFee⟩
  | excellent =>
      obtain ⟨hsale, hwindow, hfee⟩ := hearns
      exact ⟨hreturnable hsale, UInt32.le_trans hwindow h.window, h.fee_beq_zero hmore hfee⟩

/-- **Better terms of return are never rated lower**, with a warranty to fall back on where there was one. -/
theorem NoBetter.favour_rating_le {less more : ReturnPolicy} (h : less.NoBetter more)
    (hmore : 0.0 ≤ more.restockingFeePercent) {given given' : Bool}
    (hgiven : given = true → given' = true) :
    (less.rating given).favour ≤ (more.rating given').favour :=
  (more.favour_le_rating_iff given' _).mpr
    (h.earns hmore hgiven ((less.favour_le_rating_iff given _).mp le_rfl))

end ReturnPolicy

/-! ## Both ratings -/

/-- **Better terms never make for a lower rating.** Warranties with at least as many months, with labor and a
covered manufacturer wherever the others have them, score no lower and leave no more risk. A policy with a
window at least as long and a fee no higher, that is final only where the other one is, is rated no lower, if
there is a warranty wherever there was one. Of the fees it matters only that the lower one is not negative. -/
theorem ratings_follow_terms :
    (∀ less more : Warranty, less.NoBetter more →
        less.score.favour ≤ more.score.favour ∧ less.score.risk.favour ≤ more.score.risk.favour)
      ∧ (∀ less more : ReturnPolicy, less.NoBetter more → 0.0 ≤ more.restockingFeePercent →
          ∀ given given' : Bool, (given = true → given' = true) →
            (less.rating given).favour ≤ (more.rating given').favour) := by
  refine ⟨?_, ?_⟩
  · intro less more h
    exact ⟨h.favour_score_le, WarrantyScore.favour_risk_le h.favour_score_le⟩
  · intro less more h hfee given given' hgiven
    exact h.favour_rating_le hfee hgiven

/-- The range comes without labor, and on returns with a shorter window and a fee; the refrigerator's warranties
score higher, and so do its terms of return. -/
theorem refrigerator_on_better_terms :
    let range := Sample.chippedRange.deal
    let refrigerator := Sample.dentedRefrigerator.deal
    (range.warranty.NoBetter refrigerator.warranty
        ∧ range.warranty.score.favour ≤ refrigerator.warranty.score.favour
        ∧ range.warranty.score = .acceptable ∧ refrigerator.warranty.score = .excellent)
      ∧ range.returnPolicy.NoBetter refrigerator.returnPolicy
      ∧ (0.0 ≤ refrigerator.returnPolicy.restockingFeePercent ∧ range.warranty.isGiven = true)
      ∧ (range.returnPolicy.rating range.warranty.isGiven).favour
        ≤ (refrigerator.returnPolicy.rating refrigerator.warranty.isGiven).favour := by
  intro range refrigerator
  have hwarranty : range.warranty.NoBetter refrigerator.warranty :=
    ⟨by decide, by decide, by decide⟩
  have hpolicy : range.returnPolicy.NoBetter refrigerator.returnPolicy :=
    ⟨by decide, by decide, by decide⟩
  have hfee : 0.0 ≤ refrigerator.returnPolicy.restockingFeePercent := by decide
  obtain ⟨hscores, hratings⟩ := ratings_follow_terms
  exact ⟨⟨hwarranty, (hscores _ _ hwarranty).1, by decide, by decide⟩, hpolicy, ⟨hfee, by decide⟩,
    hratings _ _ hpolicy hfee _ _ fun _ => by decide⟩

end Appraisal
