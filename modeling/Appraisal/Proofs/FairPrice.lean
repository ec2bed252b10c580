/-
Whether the fair price is a range, and whether the target price lies in it.

The two ends of the fair price and the target price are the retail price less three discounts: the larger usual
discount, the midpoint of the usual ones and the smaller one. The three shares that are left grow in this order,
products of doubles are in the order of the exact products, and rounding to whole numbers keeps the order. So the
three prices of an admitted deal are in order, at every tier, up to the largest retail price that there is.

A retail price may be negative, though. Then the larger discount leaves the larger number: the fair price is given
from its upper end down to its lower end, with the target price between them the other way round. Exact arithmetic
agrees on all of it.
-/
import Appraisal.Proofs.DoubleValue
import Appraisal.Proofs.FiniteNumbers
import Appraisal.Proofs.Gates

set_option autoImplicit false

namespace Appraisal

open Binary64

namespace Price

/-! ## Reduced prices -/

section Reduced

variable {retail percent percent' : Float}

theorem value_reduced (hretail : isFinite retail = true) (hshare : isAtMostOne (1.0 - percent / 100.0) = true) :
    RoundsSigned (value retail * value (1.0 - percent / 100.0)) (value (retail * (1.0 - percent / 100.0)))
      ∧ value (reduced retail percent) = nearestWhole (value (retail * (1.0 - percent / 100.0))) := by
  obtain ⟨hfinite, hone⟩ := isAtMostOne_spec hshare
  have hbound := isMagnitude_magnitude hretail
  have hle : magnitude retail * magnitude (1.0 - percent / 100.0) ≤ magnitude retail :=
    mul_le_of_le_one_right (magnitude_nonneg retail) hone
  exact ⟨value_mul hretail hfinite hbound hle, value_roundAway (mul_spec hretail hfinite hbound hle).1⟩

/-- **Reduced prices are in the order of what is left of the retail price.** -/
theorem reduced_le_reduced (hretail : isFinite retail = true)
    (hshare : isAtMostOne (1.0 - percent / 100.0) = true) (hshare' : isAtMostOne (1.0 - percent' / 100.0) = true)
    (hle : value retail * value (1.0 - percent / 100.0) ≤ value retail * value (1.0 - percent' / 100.0)) :
    reduced retail percent ≤ reduced retail percent' := by
  obtain ⟨hrounds, hwhole⟩ := value_reduced hretail hshare
  obtain ⟨hrounds', hwhole'⟩ := value_reduced hretail hshare'
  rw [le_iff_value_le (isFinite_reduced hretail hshare) (isFinite_reduced hretail hshare'), hwhole, hwhole']
  exact_mod_cast nearestWhole_mono (hrounds.le hrounds' hle)

end Reduced

/-- The retail price less a discount in percent and rounded to a whole number, as exact arithmetic has it. -/
def reducedExactly (retail percent : ℚ) : ℤ :=
  nearestWhole (retail * (1 - percent / 100))

theorem reducedExactly_le {retail percent percent' : ℚ} (hretail : 0 ≤ retail) (hle : percent ≤ percent') :
    reducedExactly retail percent' ≤ reducedExactly retail percent := by
  apply nearestWhole_mono
  gcongr

theorem le_reducedExactly {retail percent percent' : ℚ} (hretail : retail ≤ 0) (hle : percent ≤ percent') :
    reducedExactly retail percent ≤ reducedExactly retail percent' := by
  apply nearestWhole_mono
  apply mul_le_mul_of_nonpos_left _ hretail
  gcongr

/-! ## The three shares -/

section Shares

variable (tier : DamageTier)

/-- The larger the discount, the smaller the share, at every tier. -/
theorem shares_le :
    1.0 - tier.expectedDiscount.2 / 100.0
        ≤ 1.0 - (tier.expectedDiscount.1 + tier.expectedDiscount.2) / 2.0 / 100.0
      ∧ 1.0 - (tier.expectedDiscount.1 + tier.expectedDiscount.2) / 2.0 / 100.0
        ≤ 1.0 - tier.expectedDiscount.1 / 100.0 := by
  cases tier <;> decide

theorem value_shares_le :
    value (1.0 - tier.expectedDiscount.2 / 100.0)
        ≤ value (1.0 - (tier.expectedDiscount.1 + tier.expectedDiscount.2) / 2.0 / 100.0)
      ∧ value (1.0 - (tier.expectedDiscount.1 + tier.expectedDiscount.2) / 2.0 / 100.0)
        ≤ value (1.0 - tier.expectedDiscount.1 / 100.0) := by
  obtain ⟨hlower, hupper, hmiddle⟩ := isAtMostOne_share tier
  rw [← le_iff_value_le (isAtMostOne_spec hupper).1 (isAtMostOne_spec hmiddle).1,
    ← le_iff_value_le (isAtMostOne_spec hmiddle).1 (isAtMostOne_spec hlower).1]
  exact shares_le tier

theorem value_expectedDiscount_le : value tier.expectedDiscount.1 ≤ value tier.expectedDiscount.2 := by
  obtain ⟨hminimum, hmaximum⟩ := isFinite_expectedDiscount tier
  rw [← le_iff_value_le hminimum hmaximum]
  cases tier <;> decide

end Shares

/-! ## The three prices -/

section Prices

variable {retail : Float} (tier : DamageTier)

/-- What is left of a price that is not negative grows with the share. -/
theorem target_mem_of_nonneg (hretail : isFinite retail = true) (hpos : 0 ≤ value retail) :
    reduced retail tier.expectedDiscount.2 ≤ Bargaining.target retail tier.expectedDiscount
      ∧ Bargaining.target retail tier.expectedDiscount ≤ reduced retail tier.expectedDiscount.1 := by
  obtain ⟨hlower, hupper, hmiddle⟩ := isAtMostOne_share tier
  obtain ⟨hle, hle'⟩ := value_shares_le tier
  exact ⟨reduced_le_reduced hretail hupper hmiddle (mul_le_mul_of_nonneg_left hle hpos),
    reduced_le_reduced hretail hmiddle hlower (mul_le_mul_of_nonneg_left hle' hpos)⟩

/-- What is left of a negative price goes down as the share grows. -/
theorem target_mem_of_nonpos (hretail : isFinite retail = true) (hneg : value retail ≤ 0) :
    reduced retail tier.expectedDiscount.1 ≤ Bargaining.target retail tier.expectedDiscount
      ∧ Bargaining.target retail tier.expectedDiscount ≤ reduced retail tier.expectedDiscount.2 := by
  obtain ⟨hlower, hupper, hmiddle⟩ := isAtMostOne_share tier
  obtain ⟨hle, hle'⟩ := value_shares_le tier
  exact ⟨reduced_le_reduced hretail hlower hmiddle (mul_le_mul_of_nonpos_left hle' hneg),
    reduced_le_reduced hretail hmiddle hupper (mul_le_mul_of_nonpos_left hle hneg)⟩

end Prices

end Price

/-! ## Deals -/

namespace Deal

/-- The ends of the fair price, as exact arithmetic has them. -/
def fairPriceExactly (deal : Deal) : ℤ × ℤ :=
  let retail := value deal.appliance.retailPrice
  let range := deal.visibility.result.tier.expectedDiscount
  (Price.reducedExactly retail (value range.2), Price.reducedExactly retail (value range.1))

/-- The target price, as exact arithmetic has it. -/
def targetPriceExactly (deal : Deal) : ℤ :=
  let range := deal.visibility.result.tier.expectedDiscount
  Price.reducedExactly (value deal.appliance.retailPrice) ((value range.1 + value range.2) / 2)

variable {deal : Deal} {timestamp : String}

theorem targetPriceExactly_mem_of_nonneg (hpos : 0 ≤ value deal.appliance.retailPrice) :
    deal.fairPriceExactly.1 ≤ deal.targetPriceExactly ∧ deal.targetPriceExactly ≤ deal.fairPriceExactly.2 := by
  have hle := Price.value_expectedDiscount_le deal.visibility.result.tier
  exact ⟨Price.reducedExactly_le hpos (by linarith), Price.reducedExactly_le hpos (by linarith)⟩

theorem targetPriceExactly_mem_of_nonpos (hneg : value deal.appliance.retailPrice ≤ 0) :
    deal.fairPriceExactly.2 ≤ deal.targetPriceExactly ∧ deal.targetPriceExactly ≤ deal.fairPriceExactly.1 := by
  have hle := Price.value_expectedDiscount_le deal.visibility.result.tier
  exact ⟨Price.le_reducedExactly hneg (by linarith), Price.le_reducedExactly hneg (by linarith)⟩

/-- The fair price is that of the retail price and the tier, whatever else happens. -/
theorem fairPrice_evaluate (deal : Deal) (timestamp : String) :
    (deal.evaluate timestamp).price.fairPrice
      = (Price.reduced deal.appliance.retailPrice deal.visibility.result.tier.expectedDiscount.2,
        Price.reduced deal.appliance.retailPrice deal.visibility.result.tier.expectedDiscount.1) :=
  congrArg Price.fairPrice (deal.price_evaluate timestamp)

/-- Behind both gates somebody thinks about a lower price. -/
theorem bargaining_evaluate (hhalt : deal.halt? = none) :
    (deal.evaluate timestamp).bargaining = .evaluated deal.bargaining.result := by
  obtain ⟨hsafety, hreturns⟩ := stopAt_of_halt?_eq_none _ hhalt
  rw [evaluate_eq, hsafety, hreturns]
  rfl

/-- The target price of a negotiation that somebody thought about. -/
theorem targetPrice_of_evaluated {bargaining : Bargaining}
    (h : (deal.evaluate timestamp).bargaining = .evaluated bargaining) :
    bargaining.targetPrice
      = Bargaining.target deal.appliance.retailPrice deal.visibility.result.tier.expectedDiscount := by
  rcases deal.evaluate_cases timestamp with ⟨blocker, -, heq⟩ | ⟨blocker, -, -, heq⟩ | ⟨-, -, heq⟩
  · rw [heq] at h
    exact nomatch h
  · rw [heq] at h
    exact nomatch h
  · rw [heq] at h
    rw [← Slot.evaluated.inj h]
    rfl

/-- **The fair price of an admitted deal is a range with the target price in it, unless the retail price is
negative.** With a negative retail price everything is the other way round, so that there is a range only if both
ends are the same. Exact arithmetic has the three prices in the same order. -/
theorem fairPrice_in_order (hvet : (deal.vet timestamp).isOk = true) :
    let out := deal.evaluate timestamp
    let retail := deal.appliance.retailPrice
    let lower := out.price.fairPrice.1
    let upper := out.price.fairPrice.2
    (0.0 ≤ retail →
        lower ≤ upper
          ∧ (∀ bargaining, out.bargaining = .evaluated bargaining →
              lower ≤ bargaining.targetPrice ∧ bargaining.targetPrice ≤ upper)
          ∧ deal.fairPriceExactly.1 ≤ deal.targetPriceExactly
          ∧ deal.targetPriceExactly ≤ deal.fairPriceExactly.2)
      ∧ (retail ≤ 0.0 →
        upper ≤ lower
          ∧ (∀ bargaining, out.bargaining = .evaluated bargaining →
              upper ≤ bargaining.targetPrice ∧ bargaining.targetPrice ≤ lower)
          ∧ deal.fairPriceExactly.2 ≤ deal.targetPriceExactly
          ∧ deal.targetPriceExactly ≤ deal.fairPriceExactly.1)
      ∧ (lower ≤ upper ↔ 0.0 ≤ retail ∨ (lower == upper) = true) := by
  intro out retail lower upper
  obtain ⟨hretail, -, -, -⟩ := numbers_of_vet hvet
  set tier := deal.visibility.result.tier
  have hlower : lower = Price.reduced retail tier.expectedDiscount.2 :=
    congrArg Prod.fst (deal.fairPrice_evaluate timestamp)
  have hupper : upper = Price.reduced retail tier.expectedDiscount.1 :=
    congrArg Prod.snd (deal.fairPrice_evaluate timestamp)
  -- the three prices are the retail price less three shares, and the middle share is between the other two
  have hrange : 0.0 ≤ retail → lower ≤ Bargaining.target retail tier.expectedDiscount
      ∧ Bargaining.target retail tier.expectedDiscount ≤ upper := by
    rw [hlower, hupper, nonneg_iff_value_nonneg hretail]
    exact Price.target_mem_of_nonneg tier hretail
  have hreversed : retail ≤ 0.0 → upper ≤ Bargaining.target retail tier.expectedDiscount
      ∧ Bargaining.target retail tier.expectedDiscount ≤ lower := by
    rw [hlower, hupper, nonpos_iff_value_nonpos hretail]
    exact Price.target_mem_of_nonpos tier hretail
  refine ⟨fun h => ?_, fun h => ?_, fun hle => ?_, ?_⟩
  · obtain ⟨hle, hle'⟩ := hrange h
    refine ⟨float_le_trans hle hle', fun bargaining hbargaining => ?_,
      targetPriceExactly_mem_of_nonneg ((nonneg_iff_value_nonneg hretail).mp h)⟩
    rw [targetPrice_of_evaluated hbargaining]
    exact ⟨hle, hle'⟩
  · obtain ⟨hle, hle'⟩ := hreversed h
    refine ⟨float_le_trans hle hle', fun bargaining hbargaining => ?_,
      targetPriceExactly_mem_of_nonpos ((nonpos_iff_value_nonpos hretail).mp h)⟩
    rw [targetPrice_of_evaluated hbargaining]
    exact ⟨hle, hle'⟩
  · rcases le_total 0 (value retail) with h | h
    · exact Or.inl ((nonneg_iff_value_nonneg hretail).mpr h)
    · -- turned round and a range nevertheless, so the ends are the same
      obtain ⟨hle', hle''⟩ := hreversed ((nonpos_iff_value_nonpos hretail).mpr h)
      exact Or.inr (float_beq_iff.mpr ⟨hle, float_le_trans hle' hle''⟩)
  · rintro (h | h)
    · exact float_le_trans (hrange h).1 (hrange h).2
    · exact (float_beq_iff.mp h).1

/-- The target price of an ordinary deal lies between the ends of its fair price. -/
theorem dentedRefrigerator_fairPrice :
    let deal := Sample.dentedRefrigerator.deal
    let timestamp := "2025-06-01T12:00:00Z"
    (deal.vet timestamp).isOk = true ∧ 0.0 ≤ deal.appliance.retailPrice
      ∧ ∃ bargaining, (deal.evaluate timestamp).bargaining = .evaluated bargaining
        ∧ (deal.evaluate timestamp).price.fairPrice.1 ≤ bargaining.targetPrice
        ∧ bargaining.targetPrice ≤ (deal.evaluate timestamp).price.fairPrice.2 := by
  intro deal timestamp
  have hvet : (deal.vet timestamp).isOk = true := by decide +kernel
  have hretail : 0.0 ≤ deal.appliance.retailPrice := by decide
  have hbargaining : (deal.evaluate timestamp).bargaining = .evaluated deal.bargaining.result :=
    bargaining_evaluate ((halt?_eq_none_iff _).mpr ⟨by decide, by decide⟩)
  obtain ⟨horder, -, -⟩ := fairPrice_in_order hvet
  obtain ⟨-, htarget, -⟩ := horder hretail
  exact ⟨hvet, hretail, _, hbargaining, htarget _ hbargaining⟩

/-- With a negative retail price the fair price of an admitted deal is no range: it goes from the upper end down to
the lower one, and the target price is below what is called the lower end. -/
theorem owed_refrigerator_fairPrice :
    let appliance := Sample.dentedRefrigerator.deal.appliance
    let owed := { Sample.dentedRefrigerator.deal with
      appliance := { appliance with retailPrice := -1000.0, askingPrice := 100.0 } }
    let out := owed.evaluate "2025-06-01T12:00:00Z"
    (owed.vet "2025-06-01T12:00:00Z").isOk = true
      ∧ out.price.fairPrice = (-750.0, -850.0) ∧ ¬out.price.fairPrice.1 ≤ out.price.fairPrice.2
      ∧ (∃ bargaining, out.bargaining = .evaluated bargaining ∧ ¬out.price.fairPrice.1 ≤ bargaining.targetPrice)
      ∧ ¬owed.fairPriceExactly.1 ≤ owed.fairPriceExactly.2 := by
  intro appliance owed out
  have hbargaining : out.bargaining = .evaluated owed.bargaining.result :=
    bargaining_evaluate ((halt?_eq_none_iff _).mpr ⟨by decide, by decide⟩)
  have hfair := owed.fairPrice_evaluate "2025-06-01T12:00:00Z"
  -- the three doubles in the exact prices are whole numbers
  have hretail : value owed.appliance.retailPrice = -1000 := by
    have hshape : shape owed.appliance.retailPrice = .finite true (1000 * 2 ^ 43) (-43) := by decide +kernel
    rw [value_of_shape hshape]
    norm_num
  have hminimum : value owed.visibility.result.tier.expectedDiscount.1 = 15 := by
    have hshape : shape owed.visibility.result.tier.expectedDiscount.1 = .finite false (15 * 2 ^ 49) (-49) := by
      decide +kernel
    rw [value_of_shape hshape]
    norm_num
  have hmaximum : value owed.visibility.result.tier.expectedDiscount.2 = 25 := by
    have hshape : shape owed.visibility.result.tier.expectedDiscount.2 = .finite false (25 * 2 ^ 48) (-48) := by
      decide +kernel
    rw [value_of_shape hshape]
    norm_num
  have hexact : owed.fairPriceExactly = (-750, -850) := by
    rw [fairPriceExactly, hretail, hminimum, hmaximum]
    norm_num [Price.reducedExactly, nearestWhole]
  rw [hfair, hexact]
  have hends : (Price.reduced owed.appliance.retailPrice owed.visibility.result.tier.expectedDiscount.2,
      Price.reduced owed.appliance.retailPrice owed.visibility.result.tier.expectedDiscount.1)
      = ((-750.0 : Float), (-850.0 : Float)) :=
    Prod.ext (float_eq_of_toBits (by decide +kernel)) (float_eq_of_toBits (by decide +kernel))
  exact ⟨by decide +kernel, hends, by decide +kernel, ⟨_, hbargaining, by decide +kernel⟩, by decide⟩

end Deal

end Appraisal
