/-
A halt cuts off everything behind it.

What a gate stops has been looked at only as far as the gate. Up to the first gate the stages look at where the
damage is and how severe, which sides will be seen, the two prices and the inspection; up to the second gate
also at the terms of return and at four entries of the warranty. The rest of the deal was not looked at, and
nothing of it gets into the evaluation: not by a placeholder, not by the forced verdict, not by the trace. Two
deals that agree on what was looked at, and whose buyers tolerate the same, have the same evaluation when the
one of them is stopped. Only the fingerprint is that of the whole deal.
-/
import Appraisal.Proofs.Gates

set_option autoImplicit false

namespace Appraisal

/-! ## What a stage does not look at -/

/-- The damage stage does not look at the marks, nor at what kind of installation it is. -/
theorem Visibility.assess_congr {damage damage' : Damage} {installation installation' : Installation}
    (hspots : damage.spots = damage'.spots) (hseverity : damage.severity = damage'.severity)
    (hsides : installation.visibleSides = installation'.visibleSides) :
    assess damage installation = assess damage' installation' := by
  obtain ⟨spots, severity, marks⟩ := damage
  obtain ⟨kind, visibleSides⟩ := installation
  subst hspots hseverity hsides
  rfl

/-- The pricing stage looks at nothing but the two prices and the tier. -/
theorem Price.assess_congr {appliance appliance' : Appliance} (tier : DamageTier)
    (hretail : appliance.retailPrice = appliance'.retailPrice)
    (hasking : appliance.askingPrice = appliance'.askingPrice) :
    assess appliance tier = assess appliance' tier := by
  rw [assess, assess, hretail, hasking]

/-- The warranty stage does not look at whether more coverage is on offer. -/
theorem Protection.assess_congr {warranty warranty' : Warranty} (savings : Float)
    (hmanufacturer : warranty.manufacturer = warranty'.manufacturer)
    (hmonths : warranty.retailerMonths = warranty'.retailerMonths)
    (hlabor : warranty.laborIncluded = warranty'.laborIncluded)
    (hparts : warranty.partsIncluded = warranty'.partsIncluded) :
    assess warranty savings = assess warranty' savings := by
  obtain ⟨manufacturer, months, labor, parts, extended⟩ := warranty
  subst hmanufacturer hmonths hlabor hparts
  rfl

/-- The return stage asks of the warranties only whether there is one. -/
theorem Recourse.assess_congr (policy : ReturnPolicy) {warranty warranty' : Warranty}
    (hmanufacturer : warranty.manufacturer = warranty'.manufacturer)
    (hmonths : warranty.retailerMonths = warranty'.retailerMonths) :
    assess policy warranty = assess policy warranty' := by
  have hgiven : warranty.isGiven = warranty'.isGiven := by
    rw [Warranty.isGiven, Warranty.isGiven, hmanufacturer, hmonths]
  rw [assess, assess, hgiven]

/-- The evaluation under another fingerprint. -/
def Evaluation.withFingerprint (evaluation : Evaluation) (fingerprint : String) : Evaluation :=
  { evaluation with trace := { evaluation.trace with fingerprint } }

namespace Deal

/-! ## Agreement -/

/-- Two deals agree on what is looked at up to the first gate, and their buyers tolerate the same. -/
structure AgreeUpToSafety (deal other : Deal) : Prop where
  spots : deal.damage.spots = other.damage.spots
  severity : deal.damage.severity = other.damage.severity
  visibleSides : deal.installation.visibleSides = other.installation.visibleSides
  retailPrice : deal.appliance.retailPrice = other.appliance.retailPrice
  askingPrice : deal.appliance.askingPrice = other.appliance.askingPrice
  inspection : deal.inspection = other.inspection
  riskTolerance : deal.buyer.riskTolerance = other.buyer.riskTolerance

/-- Two deals agree on what is looked at up to the second gate, and their buyers tolerate the same. -/
structure AgreeUpToReturns (deal other : Deal) : Prop extends AgreeUpToSafety deal other where
  returnPolicy : deal.returnPolicy = other.returnPolicy
  manufacturer : deal.warranty.manufacturer = other.warranty.manufacturer
  retailerMonths : deal.warranty.retailerMonths = other.warranty.retailerMonths
  laborIncluded : deal.warranty.laborIncluded = other.warranty.laborIncluded
  partsIncluded : deal.warranty.partsIncluded = other.warranty.partsIncluded

variable {deal other : Deal}

namespace AgreeUpToSafety

theorem visibility_eq (h : AgreeUpToSafety deal other) : deal.visibility = other.visibility :=
  Visibility.assess_congr h.spots h.severity h.visibleSides

theorem price_eq (h : AgreeUpToSafety deal other) : deal.price = other.price := by
  rw [price, price, h.visibility_eq]
  exact Price.assess_congr _ h.retailPrice h.askingPrice

theorem condition_eq (h : AgreeUpToSafety deal other) : deal.condition = other.condition := by
  rw [condition, condition, h.inspection]

/-- The stages up to the first gate find the same. -/
theorem findingsAt_eq (h : AgreeUpToSafety deal other) :
    ∀ stage ∈ Stage.order.take 3, deal.findingsAt stage = other.findingsAt stage := by
  simp only [Stage.order, List.take_succ_cons, List.take_zero, List.forall_mem_cons, findingsAt,
    h.visibility_eq, h.price_eq, h.condition_eq, List.not_mem_nil, false_implies, implies_true, and_self]

end AgreeUpToSafety

namespace AgreeUpToReturns

theorem protection_eq (h : AgreeUpToReturns deal other) : deal.protection = other.protection := by
  rw [protection, protection, h.price_eq]
  exact Protection.assess_congr _ h.manufacturer h.retailerMonths h.laborIncluded h.partsIncluded

theorem recourse_eq (h : AgreeUpToReturns deal other) : deal.recourse = other.recourse := by
  rw [recourse, recourse, h.returnPolicy]
  exact Recourse.assess_congr _ h.manufacturer h.retailerMonths

/-- The stages up to the second gate find the same. -/
theorem findingsAt_eq (h : AgreeUpToReturns deal other) :
    ∀ stage ∈ Stage.order.take 5, deal.findingsAt stage = other.findingsAt stage := by
  simp only [Stage.order, List.take_succ_cons, List.take_zero, List.forall_mem_cons, findingsAt,
    h.visibility_eq, h.price_eq, h.condition_eq, h.protection_eq, h.recourse_eq, List.not_mem_nil,
    false_implies, implies_true, and_self]

end AgreeUpToReturns

/-! ## The evaluation of a deal that was stopped -/

/-- Stages that find the same leave the same ledger. -/
theorem ledgerOf_congr {stages : List Stage}
    (hfindings : ∀ stage ∈ stages, deal.findingsAt stage = other.findingsAt stage) :
    deal.ledgerOf stages = other.ledgerOf stages := by
  rw [ledgerOf, ledgerOf]
  refine congrArg Ledger.ofRecords (List.map_congr_left fun stage hstage => ?_)
  rw [hfindings stage hstage]

variable (timestamp : String)

/-- A deal that was stopped has the evaluation of every deal that agrees with it up to the first gate, if the
stages that ran found the same. The asking price stands in for a target price, and is looked at early. -/
theorem AgreeUpToSafety.haltedAt (h : AgreeUpToSafety deal other) (gate : Stage) (blocker : Finding)
    {stages : List Stage}
    (hfindings : ∀ stage ∈ stages, deal.findingsAt stage = other.findingsAt stage)
    (protection : Slot Protection) (recourse : Slot Recourse) :
    other.haltedAt timestamp gate blocker stages protection recourse
      = (deal.haltedAt timestamp gate blocker stages protection recourse).withFingerprint
          other.fingerprint := by
  rw [Deal.haltedAt, Deal.haltedAt, Evaluation.halted, Evaluation.halted, ← ledgerOf_congr hfindings,
    ← h.visibility_eq, ← h.price_eq, ← h.condition_eq, ← h.riskTolerance, ← h.askingPrice]
  rfl

/-- A trace that names a gate belongs to a deal that was stopped there. -/
theorem exists_blocker_of_haltedAt {gate : Stage}
    (hgate : (deal.evaluate timestamp).trace.haltedAt = some gate) :
    ∃ blocker, deal.halt? = some (gate, blocker) := by
  rw [trace_evaluate, Ledger.trace] at hgate
  obtain ⟨⟨stage, blocker⟩, hhalt, rfl⟩ := Option.map_eq_some_iff.mp hgate
  exact ⟨blocker, hhalt⟩

/-- **A halt cuts off everything behind it.** If two deals agree on what is looked at up to a gate, and their
buyers tolerate the same, then as soon as the one is stopped at that gate, so is the other, and its evaluation
is the same but for the fingerprint. -/
theorem halt_cuts_off (deal other : Deal) (timestamp : String) :
    (AgreeUpToSafety deal other → (deal.evaluate timestamp).trace.haltedAt = some .safety →
        other.evaluate timestamp = (deal.evaluate timestamp).withFingerprint other.fingerprint)
      ∧ (AgreeUpToReturns deal other → (deal.evaluate timestamp).trace.haltedAt = some .returns →
        other.evaluate timestamp = (deal.evaluate timestamp).withFingerprint other.fingerprint) := by
  refine ⟨fun h hgate => ?_, fun h hgate => ?_⟩
  · obtain ⟨blocker, hhalt⟩ := exists_blocker_of_haltedAt timestamp hgate
    obtain ⟨-, hstop⟩ | ⟨hreturns, -⟩ := deal.stopAt_of_halt? hhalt
    · -- what stops the one is found at the gate of the other as well
      have hother : other.stopAt .safety = some blocker := by
        rw [stopAt, ← h.findingsAt_eq .safety (by decide)]
        exact hstop
      rw [evaluate_eq, evaluate_eq, hstop, hother]
      exact h.haltedAt timestamp .safety blocker h.findingsAt_eq _ _
    · exact absurd hreturns (by decide)
  · obtain ⟨blocker, hhalt⟩ := exists_blocker_of_haltedAt timestamp hgate
    obtain ⟨hsafety, -⟩ | ⟨-, hpassed, hstop⟩ := deal.stopAt_of_halt? hhalt
    · exact absurd hsafety (by decide)
    · -- the first gate lets both pass
      have hclear : other.stopAt .safety = none := by
        rw [stopAt, ← h.findingsAt_eq .safety (by decide)]
        exact hpassed
      have hother : other.stopAt .returns = some blocker := by
        rw [stopAt, ← h.findingsAt_eq .returns (by decide)]
        exact hstop
      rw [evaluate_eq, evaluate_eq, hpassed, hclear, hstop, hother, ← h.protection_eq, ← h.recourse_eq]
      exact h.haltedAt timestamp .returns blocker h.findingsAt_eq _ _

/-- Whatever is changed behind the gate that stops it, the stained washer and the dryer on final sale have the
evaluations that they had. -/
theorem stained_and_final_sale_cut_off :
    let timestamp := "2025-06-01T12:00:00Z"
    let washer := Sample.stainedWasher.deal
    let generous := { washer with
      warranty := Sample.coveredWarranty 60 true
      returnPolicy := ⟨365, 0.0, false⟩
      retailer := ⟨.bigBox, none⟩
      installation := { washer.installation with kind := .stacked } }
    let dryer := Sample.finalSaleDryer.deal
    let branded := { dryer with
      appliance := { dryer.appliance with kind := .microwave, brand := "" }
      retailer := ⟨.liquidation, some 400⟩
      warranty := { dryer.warranty with extendedAvailable := true } }
    (AgreeUpToSafety washer generous ∧ (washer.evaluate timestamp).trace.haltedAt = some .safety
        ∧ generous.evaluate timestamp = (washer.evaluate timestamp).withFingerprint generous.fingerprint)
      ∧ (AgreeUpToReturns dryer branded ∧ (dryer.evaluate timestamp).trace.haltedAt = some .returns
        ∧ branded.evaluate timestamp = (dryer.evaluate timestamp).withFingerprint branded.fingerprint) := by
  intro timestamp washer generous dryer branded
  have hgenerous : AgreeUpToSafety washer generous := ⟨rfl, rfl, rfl, rfl, rfl, rfl, rfl⟩
  have hbranded : AgreeUpToReturns dryer branded :=
    ⟨⟨rfl, rfl, rfl, rfl, rfl, rfl, rfl⟩, rfl, rfl, rfl, rfl, rfl⟩
  have hstained : washer.firstHazard? = some Rule.waterStaining := rfl
  obtain ⟨blocker, hstopped, -⟩ := washer.halt?_of_firstHazard? hstained
  have hsafety := (washer.trace_of_halt? timestamp hstopped).1
  have hfinal := dryer.halt?_of_lacksRecourse (by decide) (by decide)
  have hreturns := (dryer.trace_of_halt? timestamp hfinal).1
  exact ⟨⟨hgenerous, hsafety, (halt_cuts_off washer generous timestamp).1 hgenerous hsafety⟩,
    ⟨hbranded, hreturns, (halt_cuts_off dryer branded timestamp).2 hbranded hreturns⟩⟩

end Deal

end Appraisal
