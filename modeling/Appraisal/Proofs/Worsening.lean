/-
Worse terms never make for a better recommendation.

Two deals are compared in everything that a verdict depends on: the damage and where it shows, the discount
and the savings, the inspection, the warranties, the terms of return, and what the buyer puts up with. All
else about them may differ.

The comparison follows the way to the verdict. Whatever stops the better deal stops the worse one as well,
and where the worse one is stopped there is nothing to show. If neither is stopped, the worse deal has every
drawback of the better one, so that it has at least as many of them, and its buyer puts up with no more.

The discount and the savings are doubles. All that is used of their order is that it is transitive.
-/
import Appraisal.Proofs.DoubleOrder
import Appraisal.Proofs.Drawbacks

set_option autoImplicit false

namespace Appraisal

/-! ## What it means to be worse -/

/-- Coverage from the best on: confirmed, denied, unknown. -/
def Coverage.rank : Coverage → Nat
  | covered => 0
  | notCovered => 1
  | unknown => 2

/-- Tolerance from the least on. -/
def RiskTolerance.rank : RiskTolerance → Nat
  | low => 0
  | moderate => 1
  | high => 2

/-- Every problem of the one inspection is a problem of the other as well. -/
structure Inspection.Worsens (better worse : Inspection) : Prop where
  rustPresent : better.rustPresent = true → worse.rustPresent = true
  waterStaining : better.waterStaining = true → worse.waterStaining = true
  cordDamaged : better.cordDamaged = true → worse.cordDamaged = true
  odorPresent : better.odorPresent = true → worse.odorPresent = true
  missingParts : better.missingParts = true → worse.missingParts = true
  priorRepairs : better.priorRepairs = true → worse.priorRepairs = true
  unusualSounds : better.unusualSounds = true → worse.unusualSounds = true

namespace Deal

/-- The second deal is at least as bad as the first in everything that a verdict depends on. -/
structure Worsens (better worse : Deal) : Prop where
  spots : ∀ spot, better.damage.spots.holds spot = true → worse.damage.spots.holds spot = true
  sides : ∀ side, better.installation.visibleSides.holds side = true →
    worse.installation.visibleSides.holds side = true
  discount : worse.price.result.discountPercent ≤ better.price.result.discountPercent
  savings : worse.price.result.savings ≤ better.price.result.savings
  inspection : ∀ found, better.inspection = some found →
    ∃ found', worse.inspection = some found' ∧ found.Worsens found'
  months : worse.warranty.retailerMonths ≤ better.warranty.retailerMonths
  labor : worse.warranty.laborIncluded = true → better.warranty.laborIncluded = true
  coverage : better.warranty.manufacturer.rank ≤ worse.warranty.manufacturer.rank
  window : worse.returnPolicy.windowDays ≤ better.returnPolicy.windowDays
  finalSale : better.returnPolicy.finalSale = true → worse.returnPolicy.finalSale = true
  tolerance : worse.buyer.riskTolerance.rank ≤ better.buyer.riskTolerance.rank

end Deal

/-! ## Tiers and limits -/

/-- More damaged spots never make for a less visible tier. -/
theorem Visibility.number_tierOf_le {few many : Damage}
    (h : ∀ spot, few.spots.holds spot = true → many.spots.holds spot = true) :
    (tierOf few).number ≤ (tierOf many).number := by
  have hlisted : ∀ spot ∈ few.spots.toList, spot ∈ many.spots.toList := by
    intro spot hspot
    rw [Selection.mem_toList] at hspot ⊢
    exact h spot hspot
  have hhidden : many.spots.toList.all Spot.isHidden = true →
      few.spots.toList.all Spot.isHidden = true := by
    intro hmany
    rw [List.all_eq_true] at hmany ⊢
    exact fun spot hspot => hmany spot (hlisted spot hspot)
  have hprominent : few.spots.toList.any Spot.isProminent = true →
      many.spots.toList.any Spot.isProminent = true := by
    intro hfew
    rw [List.any_eq_true] at hfew ⊢
    obtain ⟨spot, hspot, hprominent⟩ := hfew
    exact ⟨spot, hlisted spot hspot, hprominent⟩
  unfold tierOf
  -- the tiers are decided from the hidden one on, so the larger set of spots is split first
  by_cases hmany : many.spots.toList.all Spot.isHidden = true
  · rw [if_pos hmany, if_pos (hhidden hmany)]
  · rw [if_neg hmany]
    by_cases hfew : few.spots.toList.any Spot.isProminent = true
    · rw [if_pos (hprominent hfew)]
      split_ifs <;> decide
    · rw [if_neg hfew]
      split_ifs <;> decide

/-- The more visible the damage, the higher the discount that is to be expected. -/
theorem DamageTier.expectedDiscount_le {less more : DamageTier} (h : less.number ≤ more.number) :
    less.expectedDiscount.1 ≤ more.expectedDiscount.1 := by
  cases less <;> cases more <;> first | decide | exact absurd h (by decide)

/-- Who tolerates less skips earlier. -/
theorem RiskTolerance.skipThreshold_le {less more : RiskTolerance} (h : less.rank ≤ more.rank) :
    less.skipThreshold.toNat ≤ more.skipThreshold.toNat := by
  cases less <;> cases more <;> first | decide | exact absurd h (by decide)

namespace Deal.Worsens

variable {better worse : Deal}

/-! ## The gates -/

/-- A flag of the better deal's inspection that is set there is set in the worse deal's. -/
theorem any_inspection (h : Worsens better worse) {flag : Inspection → Bool}
    (hflag : ∀ found found' : Inspection, found.Worsens found' →
      flag found = true → flag found' = true)
    (hbetter : better.inspection.any flag = true) : worse.inspection.any flag = true := by
  rw [Option.any_eq_true] at hbetter ⊢
  obtain ⟨found, hfound, hset⟩ := hbetter
  obtain ⟨found', hfound', hworse⟩ := h.inspection found hfound
  exact ⟨found', hfound', hflag found found' hworse hset⟩

theorem hasHazard (h : Worsens better worse) (hbetter : better.hasHazard = true) :
    worse.hasHazard = true := by
  refine h.any_inspection ?_ hbetter
  intro found found' hworse hhazard
  simp only [Inspection.hasHazard, Bool.or_eq_true] at hhazard ⊢
  rcases hhazard with (((hrust | hwater) | hcord) | hodor) | hparts
  · exact Or.inl (Or.inl (Or.inl (Or.inl (hworse.rustPresent hrust))))
  · exact Or.inl (Or.inl (Or.inl (Or.inr (hworse.waterStaining hwater))))
  · exact Or.inl (Or.inl (Or.inr (hworse.cordDamaged hcord)))
  · exact Or.inl (Or.inr (hworse.odorPresent hodor))
  · exact Or.inr (hworse.missingParts hparts)

theorem lacksRecourse (h : Worsens better worse) (hbetter : better.lacksRecourse = true) :
    worse.lacksRecourse = true := by
  simp only [Deal.lacksRecourse, Bool.and_eq_true, decide_eq_true_eq] at hbetter ⊢
  obtain ⟨⟨hsale, hmonths⟩, hmaker⟩ := hbetter
  refine ⟨⟨h.finalSale hsale, ?_⟩, ?_⟩
  · have hle := h.months
    rw [hmonths] at hle
    exact UInt32.le_antisymm hle (UInt32.zero_le)
  · intro hcovered
    have hrank := h.coverage
    rw [hcovered] at hrank
    cases hmade : better.warranty.manufacturer with
    | covered => exact hmaker hmade
    | notCovered => rw [hmade] at hrank; exact absurd hrank (by decide)
    | unknown => rw [hmade] at hrank; exact absurd hrank (by decide)

/-- **No gate that stops the better deal lets the worse one through.** -/
theorem halt?_eq_none (h : Worsens better worse) (hworse : worse.halt? = none) :
    better.halt? = none := by
  rw [halt?_eq_none_iff] at hworse ⊢
  obtain ⟨hhazard, hrecourse⟩ := hworse
  refine ⟨?_, ?_⟩
  · rw [← Bool.not_eq_true]
    intro hbetter
    rw [h.hasHazard hbetter] at hhazard
    exact Bool.noConfusion hhazard
  · rw [← Bool.not_eq_true]
    intro hbetter
    rw [h.lacksRecourse hbetter] at hrecourse
    exact Bool.noConfusion hrecourse

/-! ## The drawbacks -/

/-- A double that falls short of a limit falls short of a higher limit, and so does every lower double. -/
theorem falls_short {low high limit limit' : Float} (hvalue : low ≤ high) (hlimit : limit ≤ limit')
    (hshort : (!decide (high ≥ limit)) = true) : (!decide (low ≥ limit')) = true := by
  rw [Bool.not_eq_true', decide_eq_false_iff_not] at hshort ⊢
  intro hreached
  exact hshort (Binary64.float_le_trans hlimit (Binary64.float_le_trans hreached hvalue))

theorem tier (h : Worsens better worse) :
    (Visibility.tierOf better.damage).number ≤ (Visibility.tierOf worse.damage).number :=
  Visibility.number_tierOf_le h.spots

theorem seenDamage (h : Worsens better worse) (hbetter : better.has .seenDamage = true) :
    worse.has .seenDamage = true := by
  simp only [has, Bool.and_eq_true, decide_eq_true_eq, List.any_eq_true] at hbetter ⊢
  obtain ⟨⟨spot, hspot, hseen⟩, htier⟩ := hbetter
  refine ⟨⟨spot, ?_, ?_⟩, ?_⟩
  · rw [Selection.mem_toList] at hspot ⊢
    exact h.spots spot hspot
  · rw [Option.any_eq_true] at hseen ⊢
    obtain ⟨side, hside, hopen⟩ := hseen
    exact ⟨side, hside, h.sides side hopen⟩
  · intro hhidden
    have hle := h.tier
    rw [hhidden] at hle
    cases hof : Visibility.tierOf better.damage with
    | hidden => exact htier hof
    | partlyVisible => rw [hof] at hle; exact absurd hle (by decide)
    | prominent => rw [hof] at hle; exact absurd hle (by decide)

/-- **The worse deal has every drawback of the better one.** -/
theorem has (h : Worsens better worse) (drawback : Drawback)
    (hbetter : better.has drawback = true) : worse.has drawback = true := by
  have hlabor : (!better.warranty.laborIncluded) = true → (!worse.warranty.laborIncluded) = true := by
    rw [Bool.not_eq_true', Bool.not_eq_true', ← Bool.not_eq_true, ← Bool.not_eq_true]
    exact fun hexcluded hincluded => hexcluded (h.labor hincluded)
  -- every case but two looks at one dimension only: a low discount depends on the tier as well, and
  -- the risk of repairs on months, labor and savings
  cases drawback with
  | seenDamage => exact h.seenDamage hbetter
  | lowDiscount => exact falls_short h.discount (DamageTier.expectedDiscount_le h.tier) hbetter
  | priorRepairs => exact h.any_inspection (fun _ _ hworse => hworse.priorRepairs) hbetter
  | unusualSounds => exact h.any_inspection (fun _ _ hworse => hworse.unusualSounds) hbetter
  | repairRisk =>
      simp only [Deal.has, Bool.and_eq_true, decide_eq_true_eq] at hbetter
      obtain ⟨⟨hshort, hexcluded⟩, hsavings⟩ := hbetter
      simp only [Deal.has, Bool.and_eq_true, decide_eq_true_eq]
      exact ⟨⟨UInt32.lt_of_le_of_lt h.months hshort, hlabor hexcluded⟩,
        falls_short h.savings (by decide) hsavings⟩
  | laborExcluded => exact hlabor hbetter
  | manufacturerUnknown =>
      simp only [Deal.has, decide_eq_true_eq] at hbetter ⊢
      have hrank := h.coverage
      rw [hbetter] at hrank
      cases hmade : worse.warranty.manufacturer with
      | covered => rw [hmade] at hrank; exact absurd hrank (by decide)
      | notCovered => rw [hmade] at hrank; exact absurd hrank (by decide)
      | unknown => rfl
  | finalSale => exact h.finalSale hbetter
  | shortWindow =>
      simp only [Deal.has, decide_eq_true_eq] at hbetter ⊢
      exact UInt32.lt_of_le_of_lt h.window hbetter

theorem drawbackCount_le (h : Worsens better worse) : better.drawbackCount ≤ worse.drawbackCount :=
  List.countP_mono_left fun drawback _ => h.has drawback

/-! ## The recommendation -/

/-- **Worse terms never make for a better recommendation**, whenever the two deals are evaluated. -/
theorem recommendation_le (h : Worsens better worse) (timestamp timestamp' : String) :
    (worse.evaluate timestamp').verdict.recommendation
      ≤ (better.evaluate timestamp).verdict.recommendation := by
  cases hworse : worse.halt? with
  | some halt =>
      -- nothing ranks lower than walking away
      rw [verdict_evaluate_of_some worse timestamp' hworse]
      exact Recommendation.walkAway_le _
  | none =>
      -- both run to their end, and both verdicts are a function of the number of drawbacks
      have hbetter := h.halt?_eq_none hworse
      obtain ⟨_, hrecourse⟩ := worse.halt?_eq_none_iff.mp hworse
      obtain ⟨_, hrecourse'⟩ := better.halt?_eq_none_iff.mp hbetter
      obtain ⟨_, _, _, hverdict, _⟩ := worse.verdict_of_clear timestamp' hworse
      obtain ⟨_, _, _, hverdict', _⟩ := better.verdict_of_clear timestamp hbetter
      rw [hverdict, hverdict', worse.countP_findingsOf_order hrecourse,
        better.countP_findingsOf_order hrecourse']
      exact Recommendation.ofWarnings_le h.drawbackCount_le
        (RiskTolerance.skipThreshold_le h.tolerance)

end Deal.Worsens

/-! ## An instance -/

/-- The dented refrigerator on worse terms: the door is dented as well and all sides are open, it costs
more, it rattles, the warranty and the window are shorter, and the buyer is careful. -/
def Sample.rattlingRefrigerator : Deal :=
  let dented := Sample.dentedRefrigerator.deal
  { dented with
    appliance := { dented.appliance with askingPrice := 1299.0 }
    damage := { dented.damage with spots := .ofList [.back, .frontDoor] }
    installation := { dented.installation with visibleSides := .ofList [.front, .left, .right, .top] }
    warranty := ⟨.unknown, 6, false, true, true⟩
    returnPolicy := ⟨7, 0.0, true⟩
    buyer := resident .low
    inspection := some { cleanInspection with unusualSounds := true } }

/-- Nine things got worse about the refrigerator, and the recommendation did not get better. -/
theorem rattlingRefrigerator_le :
    let better := Sample.dentedRefrigerator.deal
    let worse := Sample.rattlingRefrigerator
    Deal.Worsens better worse
      ∧ (worse.evaluate "2025-06-02T12:00:00Z").verdict.recommendation
        ≤ (better.evaluate "2025-06-01T12:00:00Z").verdict.recommendation := by
  have hworse : Deal.Worsens Sample.dentedRefrigerator.deal Sample.rattlingRefrigerator :=
    { spots := by intro spot; cases spot <;> decide
      sides := by intro side; cases side <;> decide
      discount := by decide +kernel
      savings := by decide +kernel
      inspection := by
        rintro _ ⟨⟩
        exact ⟨_, rfl, by constructor <;> decide⟩
      months := by decide
      labor := by decide
      coverage := by decide
      window := by decide
      finalSale := by decide
      tolerance := by decide }
  exact ⟨hworse, hworse.recommendation_le "2025-06-01T12:00:00Z" "2025-06-02T12:00:00Z"⟩

end Appraisal
