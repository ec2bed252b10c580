/-
Which numbers of an evaluation can be infinite.

A deal that is admitted has finite prices, and an asking price that is not negative. Its evaluation has nine
numbers. Seven of them are always finite: the two prices, the ends of the usual discount and of the fair price,
and the target price, whether somebody thought about it or not. They are at most a price that was rounded.

The other two can be infinite. The savings are a difference, and get out of range if the retail price is
negative and large. The discount is a quotient, scaled up before it is rounded, and gets out of range if the
asking price is beyond all proportion to the retail price. Apart from these two cases they are finite too.

Nothing else can go wrong: if these two are finite, the written evaluation is read again, and no message holds
the name of what is no finite number.
-/
import Appraisal.Admission
import Appraisal.Proofs.Course
import Appraisal.Proofs.DoubleRange
import Appraisal.Proofs.EvaluationText
import Appraisal.Proofs.Messages
import Appraisal.Samples

set_option autoImplicit false

namespace Appraisal

open Binary64

/-! ## Shares of a price -/

namespace Binary64

/-- Is the double at most one, whatever its sign? -/
def isAtMostOne (x : Float) : Bool :=
  match shape x with
  | .finite _ mantissa exponent => exponent ≤ 0 && mantissa ≤ 2 ^ (-exponent).toNat
  | _ => false

theorem isAtMostOne_spec {x : Float} (h : isAtMostOne x = true) : isFinite x = true ∧ magnitude x ≤ 1 := by
  rw [isAtMostOne] at h
  cases hshape : shape x with
  | notANumber => simp [hshape] at h
  | infinite negative => simp [hshape] at h
  | finite negative m e =>
      simp only [hshape, Bool.and_eq_true, decide_eq_true_eq] at h
      obtain ⟨he, hm⟩ := h
      obtain ⟨k, rfl⟩ : ∃ k : ℕ, e = -k := ⟨(-e).toNat, by omega⟩
      rw [neg_neg, Int.toNat_natCast] at hm
      have hm : (m : ℚ) ≤ 2 ^ k := by exact_mod_cast hm
      have hpos : (0 : ℚ) < 2 ^ k := by positivity
      refine ⟨isFinite_of_shape hshape, ?_⟩
      rw [magnitude_of_shape hshape, zpow_neg, zpow_natCast, ← div_eq_mul_inv, div_le_one hpos]
      exact hm

end Binary64

/-! ## The numbers of a price -/

namespace Price

/-- A price less a share of it is finite. -/
theorem isFinite_reduced {retail percent : Float} (hretail : isFinite retail = true)
    (hshare : isAtMostOne (1.0 - percent / 100.0) = true) : isFinite (reduced retail percent) = true := by
  obtain ⟨hfinite, hone⟩ := isAtMostOne_spec hshare
  have hle : magnitude retail * magnitude (1.0 - percent / 100.0) ≤ magnitude retail :=
    mul_le_of_le_one_right (magnitude_nonneg retail) hone
  obtain ⟨hproduct, hbound⟩ := mul_spec hretail hfinite (isMagnitude_magnitude hretail) hle
  exact (roundAway_spec hproduct (hbound.trans (le_max_left _ (2 ^ 52))) (le_max_right _ _)).1

/-- The shares that are usual for a tier leave no more than the whole price. -/
theorem isAtMostOne_share (tier : DamageTier) :
    isAtMostOne (1.0 - tier.expectedDiscount.1 / 100.0) = true
      ∧ isAtMostOne (1.0 - tier.expectedDiscount.2 / 100.0) = true
      ∧ isAtMostOne (1.0 - (tier.expectedDiscount.1 + tier.expectedDiscount.2) / 2.0 / 100.0) = true := by
  cases tier <;> decide

theorem hundred_spec : isFinite 100.0 = true ∧ magnitude 100.0 = 100 := by
  refine ⟨isFinite_of_shape shape_hundred, ?_⟩
  rw [magnitude_of_shape shape_hundred]
  norm_num

theorem ten_spec : isFinite 10.0 = true ∧ magnitude 10.0 = 10 := by
  have hshape : shape 10.0 = .finite false (10 * 2 ^ 49) (-49) := by decide
  refine ⟨isFinite_of_shape hshape, ?_⟩
  rw [magnitude_of_shape hshape]
  norm_num

/-- The savings on a retail price that is not negative are finite. -/
theorem isFinite_savings {retail asking : Float} (hretail : isFinite retail = true)
    (hasking : isFinite asking = true) (hpos : ¬retail < 0.0) (hpos' : ¬asking < 0.0) :
    isFinite (retail - asking) = true :=
  (sub_spec hretail hasking hpos hpos').1

/-- The discount is finite as long as the asking price is not beyond all proportion to the retail price. -/
theorem isFinite_discount {retail asking : Float} (hretail : isFinite retail = true)
    (hasking : isFinite asking = true) (hpos' : ¬asking < 0.0)
    (hproportion : retail ≤ 0.0 ∨ magnitude asking ≤ 10 ^ 300 * magnitude retail) :
    isFinite (discount retail asking) = true := by
  rw [discount]
  by_cases hzero : retail ≤ 0.0
  · rw [if_pos hzero]
    decide
  · rw [if_neg hzero]
    have hasked := hproportion.resolve_left hzero
    have hne := magnitude_ne_zero hretail hzero
    have hpositive : 0 < magnitude retail := (magnitude_nonneg retail).lt_of_ne' hne
    -- each step has a power of two as its bound
    obtain ⟨hsavings, hdifference⟩ := sub_spec hretail hasking (not_lt_of_not_le hzero) hpos'
    have hratio : magnitude (retail - asking) / magnitude retail ≤ 2 ^ 1000 := by
      rw [div_le_iff₀ hpositive]
      refine hdifference.trans (max_le ?_ (hasked.trans ?_))
      · exact le_mul_of_one_le_left (magnitude_nonneg retail) (one_le_pow₀ (by norm_num))
      · have hpower : (10 : ℚ) ^ 300 ≤ 2 ^ 1000 := by
          calc (10 : ℚ) ^ 300 = (10 ^ 3) ^ 100 := (pow_mul 10 3 100)
            _ ≤ (2 ^ 10) ^ 100 := pow_le_pow_left₀ (by norm_num) (by norm_num) 100
            _ = 2 ^ 1000 := (pow_mul 2 10 100).symm
        gcongr
    obtain ⟨hquotient, hratio⟩ := div_spec hsavings hretail hne (isMagnitude_two_pow (by decide)) hratio
    have hhundred : magnitude 100.0 ≤ 2 ^ 7 := by
      rw [hundred_spec.2]
      norm_num
    have hten : magnitude 10.0 ≤ 2 ^ 4 := by
      rw [ten_spec.2]
      norm_num
    have hpercent := mul_two_pow_spec ⟨hquotient, hratio⟩ ⟨hundred_spec.1, hhundred⟩ (by decide)
    have htenths := mul_two_pow_spec hpercent ⟨ten_spec.1, hten⟩ (by decide)
    obtain ⟨hwhole, hrounded⟩ := roundAway_spec htenths.1 htenths.2
      (pow_le_pow_right₀ (by norm_num) (by decide))
    have hscaled : magnitude (roundAway ((retail - asking) / retail * 100.0 * 10.0)) / magnitude 10.0
        ≤ 2 ^ (1000 + 7 + 4) := by
      rw [ten_spec.2]
      exact (div_le_self (magnitude_nonneg _) (by norm_num)).trans hrounded
    have hne : magnitude 10.0 ≠ 0 := by
      rw [ten_spec.2]
      norm_num
    exact (div_spec hwhole ten_spec.1 hne (isMagnitude_two_pow (by decide)) hscaled).1

end Price

/-! ## The numbers of an evaluation -/

namespace Deal

/-- A deal that is admitted has finite prices and a finite fee, and an asking price that is not negative. -/
theorem numbers_of_vet {deal : Deal} {timestamp : String} (hvet : (deal.vet timestamp).isOk = true) :
    isFinite deal.appliance.retailPrice = true ∧ isFinite deal.appliance.askingPrice = true
      ∧ ¬deal.appliance.askingPrice < 0.0 ∧ isFinite deal.returnPolicy.restockingFeePercent = true := by
  obtain ⟨hretail, hasking, hpositive, hfee, -⟩ := (deal.isOk_vet_iff timestamp).mp hvet
  rw [isPercentage, Bool.and_eq_true, Bool.and_eq_true] at hfee
  exact ⟨hretail, hasking, hpositive, hfee.1.1⟩

/-- The target price is a part of the retail price, or stands in for one. -/
theorem targetPrice_evaluate (deal : Deal) (timestamp : String) :
    (deal.evaluate timestamp).bargaining.value.targetPrice
        = Bargaining.target deal.appliance.retailPrice deal.visibility.result.tier.expectedDiscount
      ∨ (deal.evaluate timestamp).bargaining.value.targetPrice = deal.appliance.askingPrice := by
  rw [evaluate_eq]
  cases deal.stopAt .safety with
  | some blocker => exact Or.inr rfl
  | none =>
      cases deal.stopAt .returns with
      | some blocker => exact Or.inr rfl
      | none => exact Or.inl rfl

/-- Seven of the nine numbers are finite. -/
theorem isFinite_fixed_numbers {deal : Deal} {timestamp : String} (hvet : (deal.vet timestamp).isOk = true) :
    let out := deal.evaluate timestamp
    let price := out.price
    ∀ x ∈ [price.retail, price.asking, price.expectedDiscount.1, price.expectedDiscount.2,
      price.fairPrice.1, price.fairPrice.2, out.bargaining.value.targetPrice], isFinite x = true := by
  intro out price
  obtain ⟨hretail, hasking, -, -⟩ := numbers_of_vet hvet
  have hprice : price = deal.price.result := deal.price_evaluate timestamp
  obtain ⟨hlower, hupper, hmiddle⟩ := Price.isAtMostOne_share deal.visibility.result.tier
  obtain ⟨hminimum, hmaximum⟩ := Price.isFinite_expectedDiscount deal.visibility.result.tier
  have htarget : isFinite out.bargaining.value.targetPrice = true := by
    rcases deal.targetPrice_evaluate timestamp with h | h
    · rw [h]
      exact Price.isFinite_reduced hretail hmiddle
    · rw [h]
      exact hasking
  rw [hprice]
  simp only [List.forall_mem_cons, List.not_mem_nil, false_implies, implies_true, and_true]
  exact ⟨hretail, hasking, hminimum, hmaximum, Price.isFinite_reduced hretail hupper,
    Price.isFinite_reduced hretail hlower, htarget⟩

/-- **The numbers of an evaluation are finite, with two exceptions.** If a deal is admitted, seven of the nine
are finite whatever the prices are. So are the savings unless the retail price is negative, and so is the
discount unless the asking price is more than `10 ^ 300` times a positive retail price. If the savings and
the discount are finite, the text of the evaluation is decoded again, and no message holds the name of a number
that is not. -/
theorem isFinite_numbers_evaluate {deal : Deal} {timestamp : String}
    (hvet : (deal.vet timestamp).isOk = true) :
    let out := deal.evaluate timestamp
    let price := out.price
    (∀ x ∈ [price.retail, price.asking, price.expectedDiscount.1, price.expectedDiscount.2,
        price.fairPrice.1, price.fairPrice.2, out.bargaining.value.targetPrice], isFinite x = true)
      ∧ (¬price.retail < 0.0 → isFinite price.savings = true)
      ∧ (price.retail ≤ 0.0 ∨ magnitude price.asking ≤ 10 ^ 300 * magnitude price.retail →
          isFinite price.discountPercent = true)
      ∧ (isFinite price.savings = true → isFinite price.discountPercent = true →
          Json.decodeText decode (Json.compact (encode out)) = .ok (out.mapNumbers reread)
            ∧ ∀ finding ∈ out.trace.findings, ∀ name ∈ Decimal.nonfiniteNames,
                ¬name <:+: finding.message.toList) := by
  intro out price
  obtain ⟨hretail, hasking, hpositive, hfee⟩ := numbers_of_vet hvet
  have hprice : price = deal.price.result := deal.price_evaluate timestamp
  have hfixed := isFinite_fixed_numbers hvet
  refine ⟨hfixed, ?_, ?_, ?_⟩
  · rw [hprice]
    exact fun h => Price.isFinite_savings hretail hasking h hpositive
  · rw [hprice]
    exact fun h => Price.isFinite_discount hretail hasking hpositive h
  · intro hsavings hdiscount
    simp only [List.forall_mem_cons, List.not_mem_nil, false_implies, implies_true, and_true] at hfixed
    obtain ⟨hshown, hasked, hminimum, hmaximum, hlower, hupper, htarget⟩ := hfixed
    refine ⟨Evaluation.decodeText_encode ?_, fun finding hfinding => ?_⟩
    · simp only [Evaluation.numbers, List.forall_mem_cons, List.not_mem_nil, false_implies, implies_true,
        and_true]
      exact ⟨hshown, hasked, hdiscount, hsavings, hminimum, hmaximum, hlower, hupper, htarget⟩
    · rw [hprice] at hsavings hdiscount
      obtain ⟨-, -, hmiddle⟩ := Price.isAtMostOne_share deal.visibility.result.tier
      exact (seamless_message hretail hasking hfee hsavings hdiscount (Price.isFinite_reduced hretail hmiddle)
        hfinding).holds_no_name

/-- An ordinary deal has ordinary numbers, and its evaluation is read again. -/
theorem dentedRefrigerator_numbers :
    (Sample.dentedRefrigerator.deal.vet "2025-06-01T12:00:00Z").isOk = true
      ∧ isFinite (Sample.dentedRefrigerator.deal.evaluate "2025-06-01T12:00:00Z").price.savings = true
      ∧ isFinite (Sample.dentedRefrigerator.deal.evaluate "2025-06-01T12:00:00Z").price.discountPercent = true
      ∧ Json.decodeText decode
            (Json.compact (encode (Sample.dentedRefrigerator.deal.evaluate "2025-06-01T12:00:00Z")))
          = .ok ((Sample.dentedRefrigerator.deal.evaluate "2025-06-01T12:00:00Z").mapNumbers reread) := by
  have hvet : (Sample.dentedRefrigerator.deal.vet "2025-06-01T12:00:00Z").isOk = true := by decide +kernel
  obtain ⟨-, hsavings, hdiscount, hread⟩ := isFinite_numbers_evaluate hvet
  have hprice := Sample.dentedRefrigerator.deal.price_evaluate "2025-06-01T12:00:00Z"
  rw [hprice] at hsavings hdiscount hread ⊢
  have hretail : shape Sample.dentedRefrigerator.deal.appliance.retailPrice
      = .finite false (1899 * 2 ^ 42) (-42) := by decide +kernel
  have hasking : shape Sample.dentedRefrigerator.deal.appliance.askingPrice
      = .finite false (1149 * 2 ^ 42) (-42) := by decide +kernel
  have hproportion : magnitude Sample.dentedRefrigerator.deal.price.result.asking
      ≤ 10 ^ 300 * magnitude Sample.dentedRefrigerator.deal.price.result.retail := by
    show magnitude Sample.dentedRefrigerator.deal.appliance.askingPrice
      ≤ 10 ^ 300 * magnitude Sample.dentedRefrigerator.deal.appliance.retailPrice
    rw [magnitude_of_shape hretail, magnitude_of_shape hasking]
    refine le_trans ?_ (le_mul_of_one_le_left (by norm_num) (one_le_pow₀ (by norm_num)))
    norm_num
  have hfinite := hsavings (by decide +kernel)
  have hpercent := hdiscount (Or.inr hproportion)
  exact ⟨hvet, hfinite, hpercent, (hread hfinite hpercent).1⟩

/-- Both exceptions occur: a retail price next to nothing makes the discount infinite, and a large negative one
the savings. Both deals are admitted. An infinite number is written as none, so that the evaluation is not read
again, and has a name in sentences. -/
theorem infinite_discount_and_savings :
    let appliance := Sample.dentedRefrigerator.deal.appliance
    let cheap := { Sample.dentedRefrigerator.deal with
      appliance := { appliance with retailPrice := 1e-300, askingPrice := 1e6 } }
    let owed := { Sample.dentedRefrigerator.deal with
      appliance := { appliance with retailPrice := -1e308, askingPrice := 1e308 } }
    let timestamp := "2025-06-01T12:00:00Z"
    (cheap.vet timestamp).isOk = true ∧ (owed.vet timestamp).isOk = true
      ∧ isFinite (cheap.evaluate timestamp).price.discountPercent = false
      ∧ isFinite (owed.evaluate timestamp).price.savings = false
      ∧ Json.compact (encode (cheap.evaluate timestamp).price.discountPercent) = "null"
      ∧ (Json.decodeText (decode : Json.Decoder Evaluation)
          (Json.compact (encode (cheap.evaluate timestamp)))).isOk = false
      ∧ Price.tenth (cheap.evaluate timestamp).price.discountPercent = "-inf" := by
  intro appliance cheap owed timestamp
  rw [price_evaluate, price_evaluate, Json.decodeText_compact]
  exact ⟨by decide +kernel, by decide +kernel, by decide +kernel, by decide +kernel, by decide +kernel,
    by decide +kernel, by decide +kernel⟩

end Deal

end Appraisal
