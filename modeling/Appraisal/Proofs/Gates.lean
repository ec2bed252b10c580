/-
What stops a deal, read off the deal.

There are two gates. The first stops a deal whose inspection found a hazard, by the rule of the first hazard
in the order in which they are looked at. The second stops a sale that is final and comes without any
warranty. Nothing else stops a deal, and the finding by which a deal was stopped is the first failed blocker
of its whole trace.
-/
import Appraisal.Proofs.Course
import Appraisal.Samples

set_option autoImplicit false

namespace Appraisal

/-! ## Hazards -/

namespace Inspection

/-- Is the flag of any of the five hazards set? -/
def hasHazard (inspection : Inspection) : Bool :=
  inspection.rustPresent || inspection.waterStaining || inspection.cordDamaged
    || inspection.odorPresent || inspection.missingParts

theorem any_hazards (inspection : Inspection) :
    inspection.hazards.any Prod.fst = inspection.hasHazard := by
  simp [hazards, hasHazard, Bool.or_assoc]

/-- There is a first hazard exactly if there is any. -/
theorem isSome_firstHazard? (inspection : Inspection) :
    inspection.firstHazard?.isSome = inspection.hasHazard := by
  rw [firstHazard?, Option.isSome_map, List.isSome_find?, any_hazards]

end Inspection

namespace Deal

/-- Was the appliance inspected, and did the inspection find a hazard? -/
def hasHazard (deal : Deal) : Bool :=
  deal.inspection.any Inspection.hasHazard

/-- The rule of the first hazard that an inspection found. -/
def firstHazard? (deal : Deal) : Option Rule :=
  deal.inspection.bind Inspection.firstHazard?

/-- Is the sale final, without a retailer's warranty and without a manufacturer's that was confirmed? -/
def lacksRecourse (deal : Deal) : Bool :=
  deal.returnPolicy.finalSale && deal.warranty.retailerMonths = 0
    && deal.warranty.manufacturer ≠ .covered

variable (deal : Deal) (timestamp : String)

theorem isSome_firstHazard? : deal.firstHazard?.isSome = deal.hasHazard := by
  rw [firstHazard?, hasHazard]
  cases deal.inspection with
  | none => rfl
  | some inspection => exact inspection.isSome_firstHazard?

/-! ## The two gates -/

/-- The first gate stops a deal by the rule of the first hazard. -/
theorem map_ruleId_stopAt_safety :
    (deal.stopAt .safety).map Finding.ruleId = deal.firstHazard?.map Rule.id :=
  Condition.map_ruleId_find?_assess deal.inspection

theorem isSome_stopAt_safety : (deal.stopAt .safety).isSome = deal.hasHazard := by
  rw [← isSome_firstHazard?, ← Option.isSome_map (f := Finding.ruleId), map_ruleId_stopAt_safety,
    Option.isSome_map]

/-- A final sale without any warranty is one that leaves no recourse. -/
theorem lacksRecourse_eq :
    deal.lacksRecourse = (deal.returnPolicy.finalSale && !deal.warranty.isGiven) := by
  have hmonths : deal.warranty.retailerMonths > 0 ↔ ¬ deal.warranty.retailerMonths = 0 := by
    rw [gt_iff_lt, UInt32.pos_iff_ne_zero]
  rw [lacksRecourse, Bool.and_assoc]
  congr 1
  simp [Warranty.isGiven, Coverage.isCovered, hmonths]

/-- The second gate stops a deal that leaves no recourse. -/
theorem stopAt_returns :
    deal.stopAt .returns
      = if deal.lacksRecourse then some (Recourse.finalSaleFinding false) else none := by
  rw [lacksRecourse_eq]
  exact Recourse.find?_isFailedBlocker_assess deal.returnPolicy deal.warranty

/-- A hazard stops a deal at the first gate, by a finding of the rule of the first hazard. -/
theorem halt?_of_firstHazard? {hazard : Rule} (hfirst : deal.firstHazard? = some hazard) :
    ∃ blocker, deal.halt? = some (.safety, blocker) ∧ blocker.ruleId = hazard.id := by
  have hrule := deal.map_ruleId_stopAt_safety
  rw [hfirst] at hrule
  obtain ⟨blocker, hblocker, hid⟩ := Option.map_eq_some_iff.mp hrule
  refine ⟨blocker, ?_, hid⟩
  rw [halt?, hblocker]
  rfl

theorem stopAt_safety_eq_none_iff : deal.stopAt .safety = none ↔ deal.hasHazard = false := by
  rw [← isSome_stopAt_safety, Option.isSome_eq_false_iff, Option.isNone_iff_eq_none]

/-- Without a hazard, a deal that leaves no recourse is stopped at the second gate. -/
theorem halt?_of_lacksRecourse (hhazard : deal.hasHazard = false)
    (hrecourse : deal.lacksRecourse = true) :
    deal.halt? = some (.returns, Recourse.finalSaleFinding false) := by
  rw [halt?, deal.stopAt_safety_eq_none_iff.mpr hhazard, stopAt_returns, if_pos hrecourse]
  rfl

/-- A deal with neither of the two faults runs through all stages. -/
theorem halt?_eq_none_iff :
    deal.halt? = none ↔ deal.hasHazard = false ∧ deal.lacksRecourse = false := by
  have hreturns : deal.stopAt .returns = none ↔ deal.lacksRecourse = false := by
    rw [stopAt_returns]
    cases deal.lacksRecourse <;> simp
  rw [halt?, Option.or_eq_none_iff, Option.map_eq_none_iff, Option.map_eq_none_iff,
    stopAt_safety_eq_none_iff, hreturns]

/-! ## What a stopped evaluation says about itself -/

/-- The trace tells at which gate the deal was stopped, and the gate is the last stage that it lists. -/
theorem trace_of_halt? {gate : Stage} {blocker : Finding}
    (hhalt : deal.halt? = some (gate, blocker)) :
    let trace := (deal.evaluate timestamp).trace
    trace.haltedAt = some gate ∧ trace.haltedBy = some blocker.ruleId
      ∧ trace.stages.getLast? = some gate := by
  obtain ⟨before, hbefore⟩ := deal.course_of_halt? hhalt
  have htrace := deal.trace_evaluate timestamp
  refine ⟨?_, ?_, ?_⟩
  · rw [htrace, hhalt]
    rfl
  · rw [htrace, hhalt]
    rfl
  · rw [stages_trace_evaluate, hbefore, List.getLast?_concat]

/-- The finding that stopped the deal is a finding of the gate, the findings of the gate end the trace, and
the summary of the verdict quotes it. -/
theorem blocker_of_halt? {gate : Stage} {blocker : Finding}
    (hhalt : deal.halt? = some (gate, blocker)) :
    let out := deal.evaluate timestamp
    out.trace.findings.find? Finding.isFailedBlocker = some blocker
      ∧ blocker ∈ deal.findingsAt gate
      ∧ deal.findingsAt gate <:+ out.trace.findings
      ∧ out.verdict.summary = "Walk away: " ++ blocker.message := by
  obtain ⟨before, hbefore⟩ := deal.course_of_halt? hhalt
  refine ⟨?_, ?_, ?_, ?_⟩
  · rw [findings_trace_evaluate, find?_findingsOf_course, hhalt]
    rfl
  · rcases deal.stopAt_of_halt? hhalt with ⟨rfl, hsafety⟩ | ⟨rfl, _, hreturns⟩
    · exact List.mem_of_find?_eq_some hsafety
    · exact List.mem_of_find?_eq_some hreturns
  · rw [findings_trace_evaluate, hbefore, findingsOf, List.flatMap_append, List.flatMap_singleton]
    exact List.suffix_append _ _
  · rw [verdict_evaluate_of_some deal timestamp hhalt]
    rfl

/-! ## Exactly these two gates -/

/-- **Where an evaluation stops, and by what.** A hazard stops it at the first gate, by the rule of the first
hazard. Without a hazard, a final sale without any warranty stops it at the second. Nothing else stops it.
However it was stopped, the trace and the verdict both name the first failed blocker of all findings, and the
gate made that finding and ran last. -/
theorem evaluate_stops_exactly_at_gates (deal : Deal) (timestamp : String) :
    let out := deal.evaluate timestamp
    (deal.hasHazard = true →
        ∃ hazard, deal.firstHazard? = some hazard
          ∧ out.trace.haltedAt = some .safety
          ∧ out.trace.haltedBy = some hazard.id
          ∧ out.trace.stages = Stage.order.take 3)
      ∧ (deal.hasHazard = false → deal.lacksRecourse = true →
          out.trace.haltedAt = some .returns
            ∧ out.trace.haltedBy = some "RETURN.POLICY.FINAL_SALE_NO_WARRANTY_V1"
            ∧ out.trace.stages = Stage.order.take 5)
      ∧ (deal.hasHazard = false → deal.lacksRecourse = false →
          out.trace.haltedAt = none ∧ out.trace.haltedBy = none ∧ out.trace.stages = Stage.order)
      ∧ ∀ gate, out.trace.haltedAt = some gate →
          ∃ blocker, out.trace.findings.find? Finding.isFailedBlocker = some blocker
            ∧ out.trace.haltedBy = some blocker.ruleId
            ∧ out.trace.stages.getLast? = some gate
            ∧ blocker ∈ deal.findingsAt gate
            ∧ deal.findingsAt gate <:+ out.trace.findings
            ∧ out.verdict.summary = "Walk away: " ++ blocker.message := by
  intro out
  have htrace : out.trace = (deal.ledgerOf deal.course).trace deal.halt? timestamp deal.fingerprint :=
    deal.trace_evaluate timestamp
  have hstages : out.trace.stages = deal.course := deal.stages_trace_evaluate timestamp
  refine ⟨?_, ?_, ?_, ?_⟩
  · intro hhazard
    obtain ⟨hazard, hfirst⟩ := Option.isSome_iff_exists.mp (deal.isSome_firstHazard?.trans hhazard)
    obtain ⟨blocker, hhalt, hid⟩ := deal.halt?_of_firstHazard? hfirst
    obtain ⟨hgate, hby, _⟩ := deal.trace_of_halt? timestamp hhalt
    refine ⟨hazard, hfirst, hgate, ?_, ?_⟩
    · rw [← hid]
      exact hby
    · rw [hstages, course, hhalt]
  · intro hhazard hrecourse
    have hhalt := deal.halt?_of_lacksRecourse hhazard hrecourse
    obtain ⟨hgate, hby, _⟩ := deal.trace_of_halt? timestamp hhalt
    refine ⟨hgate, hby, ?_⟩
    rw [hstages, course, hhalt]
  · intro hhazard hrecourse
    have hhalt : deal.halt? = none := deal.halt?_eq_none_iff.mpr ⟨hhazard, hrecourse⟩
    refine ⟨?_, ?_, ?_⟩
    · rw [htrace, hhalt]
      rfl
    · rw [htrace, hhalt]
      rfl
    · exact hstages.trans (deal.course_of_halt?_eq_none hhalt)
  · intro gate hgate
    -- that the trace names a gate is all there is to go by, so the halt is read back from it
    cases hhalt : deal.halt? with
    | none =>
        rw [htrace, hhalt] at hgate
        exact absurd hgate (by simp [Ledger.trace])
    | some halt =>
        obtain ⟨stage, blocker⟩ := halt
        obtain ⟨hat, hby, hlast⟩ := deal.trace_of_halt? timestamp hhalt
        obtain rfl := Option.some.inj (hgate.symm.trans hat)
        obtain ⟨hfirst, hmem, hsuffix, hsummary⟩ := deal.blocker_of_halt? timestamp hhalt
        exact ⟨blocker, hfirst, hby, hlast, hmem, hsuffix, hsummary⟩

/-- A hazard, a final sale without any warranty, and neither of them. -/
theorem samples_at_gates :
    let washer := (Sample.stainedWasher.deal.evaluate "2025-06-01T12:00:00Z").trace
    let dryer := (Sample.finalSaleDryer.deal.evaluate "2025-06-01T12:00:00Z").trace
    let refrigerator := (Sample.dentedRefrigerator.deal.evaluate "2025-06-01T12:00:00Z").trace
    (washer.haltedBy = some "SAFETY.HAZARD.WATER_STAINING_V1"
        ∧ washer.stages = [.damage, .pricing, .safety])
      ∧ (dryer.haltedAt = some .returns ∧ dryer.stages.getLast? = some .returns)
      ∧ refrigerator.haltedAt = none := by
  intro washer dryer refrigerator
  have hwasher := evaluate_stops_exactly_at_gates Sample.stainedWasher.deal "2025-06-01T12:00:00Z"
  have hdryer := evaluate_stops_exactly_at_gates Sample.finalSaleDryer.deal "2025-06-01T12:00:00Z"
  have hrefrigerator :=
    evaluate_stops_exactly_at_gates Sample.dentedRefrigerator.deal "2025-06-01T12:00:00Z"
  refine ⟨?_, ?_, ?_⟩
  · obtain ⟨hazard, hfirst, _, hby, hstages⟩ := hwasher.1 (by decide)
    obtain rfl : Rule.waterStaining = hazard := Option.some.inj hfirst
    exact ⟨hby, hstages⟩
  · obtain ⟨hat, _, _⟩ := hdryer.2.1 (by decide) (by decide)
    obtain ⟨_, _, _, hlast, _⟩ := hdryer.2.2.2 .returns hat
    exact ⟨hat, hlast⟩
  · exact (hrefrigerator.2.2.1 (by decide) (by decide)).1

end Deal

end Appraisal
