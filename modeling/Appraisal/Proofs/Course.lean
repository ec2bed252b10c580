/-
The course of an evaluation: which stages run, and how what they find adds up.

The eight stages are functions of the deal, and each of them can be asked by itself what it finds. An
evaluation does nothing but run an initial stretch of them and keep what they find in order. This module says
so in closed form. `Deal.halt?` is the gate that stops a deal, `Deal.course` the stages that run, and the
trace and the verdict of an evaluation are read off these two.

The evaluation itself is opened here once, in one equation for each of its three ends. Everything that is
said about evaluations elsewhere goes through the closed form.
-/
import Appraisal.Evaluation.Basic
import Appraisal.Proofs.Ledger
import Appraisal.Proofs.Stages

set_option autoImplicit false

namespace Appraisal.Deal

/-! ## The stages by themselves -/

section Stages

variable (deal : Deal)

/-- What the damage stage makes of a deal. -/
def visibility : Assessed Visibility :=
  Visibility.assess deal.damage deal.installation

/-- What the pricing stage makes of a deal. -/
def price : Assessed Price :=
  Price.assess deal.appliance deal.visibility.result.tier

/-- What the safety stage makes of a deal. -/
def condition : Assessed Condition :=
  Condition.assess deal.inspection

/-- What the warranty stage makes of a deal. -/
def protection : Assessed Protection :=
  Protection.assess deal.warranty deal.price.result.savings

/-- What the return stage makes of a deal. -/
def recourse : Assessed Recourse :=
  Recourse.assess deal.returnPolicy deal.warranty

/-- What the negotiation stage makes of a deal. -/
def bargaining : Assessed Bargaining :=
  Bargaining.assess deal deal.visibility.result.tier deal.price.result

/-- What the logistics stage makes of a deal. -/
def delivery : Assessed Delivery :=
  Delivery.assess deal.appliance deal.installation

/-- The findings that the last stage aggregates. -/
def grounds : List Finding :=
  deal.visibility.findings ++ deal.price.findings ++ deal.condition.findings
    ++ deal.protection.findings ++ deal.recourse.findings ++ deal.bargaining.findings
    ++ deal.delivery.findings

/-- What the last stage makes of a deal that no gate stopped. -/
def conclusion : Assessed Verdict :=
  Verdict.assess deal.grounds deal.buyer.riskTolerance

/-- What a stage finds about a deal. -/
def findingsAt : Stage → List Finding
  | .damage => deal.visibility.findings
  | .pricing => deal.price.findings
  | .safety => deal.condition.findings
  | .warranty => deal.protection.findings
  | .returns => deal.recourse.findings
  | .negotiation => deal.bargaining.findings
  | .logistics => deal.delivery.findings
  | .verdict => deal.conclusion.findings

/-- What stages find about a deal, in their order. -/
def findingsOf (stages : List Stage) : List Finding :=
  stages.flatMap deal.findingsAt

/-- The ledger after a run of stages. -/
def ledgerOf (stages : List Stage) : Ledger :=
  .ofRecords (stages.map fun stage => (stage, deal.findingsAt stage))

/-- The first blocker that fails at a stage. -/
def stopAt (stage : Stage) : Option Finding :=
  (deal.findingsAt stage).find? Finding.isFailedBlocker

end Stages

variable (deal : Deal) (timestamp : String)

/-! ## What the gates see -/

@[simp] theorem findings_ledgerOf (stages : List Stage) :
    (deal.ledgerOf stages).findings = deal.findingsOf stages := by
  rw [ledgerOf, Ledger.findings_ofRecords, List.flatMap_map, findingsOf]

@[simp] theorem stages_ledgerOf (stages : List Stage) :
    (deal.ledgerOf stages).stages = stages := by
  rw [ledgerOf, Ledger.stages_ofRecords, List.map_map]
  exact List.map_id stages

/-- A gate that has been recorded sees the first blocker that fails at its own stage. -/
theorem haltingBlocker?_ledgerOf {stages : List Stage} {gate : Stage} (hgate : gate ∈ stages) :
    (deal.ledgerOf stages).haltingBlocker? gate = deal.stopAt gate := by
  have hfound : stages.find? (fun stage => decide (stage = gate)) = some gate := by
    cases hfind : stages.find? fun stage => decide (stage = gate) with
    | none => exact absurd (List.find?_eq_none.mp hfind gate hgate) (by simp)
    | some stage =>
        have hstage := List.find?_some hfind
        rw [decide_eq_true_eq] at hstage
        rw [hstage]
  rw [ledgerOf, Ledger.haltingBlocker?_ofRecords, List.find?_map]
  simp only [Function.comp_def, hfound, Option.map_some, Option.bind_some]
  rfl

/-- Only the two gates can fail a blocker. -/
theorem stopAt_eq_none {stage : Stage} (hsafety : stage ≠ .safety) (hreturns : stage ≠ .returns) :
    deal.stopAt stage = none := by
  cases stage with
  | damage => exact Visibility.find?_isFailedBlocker_assess _ _
  | pricing => exact Price.find?_isFailedBlocker_assess _ _
  | safety => exact absurd rfl hsafety
  | warranty => exact Protection.find?_isFailedBlocker_assess _ _
  | returns => exact absurd rfl hreturns
  | negotiation =>
      exact Finding.find?_isFailedBlocker_of_passed fun _ hf => Bargaining.passed_of_mem_assess hf
  | logistics =>
      exact Finding.find?_isFailedBlocker_of_passed fun _ hf => Delivery.passed_of_mem_assess hf
  | verdict =>
      exact Finding.find?_isFailedBlocker_of_passed fun _ hf => Verdict.passed_of_mem_assess hf

/-! ## The three ends of an evaluation -/

/-- The evaluation that ran through all stages. -/
def complete : Evaluation where
  verdict := deal.conclusion.result
  price := deal.price.result
  visibility := deal.visibility.result
  protection := .evaluated deal.protection.result
  condition := deal.condition.result
  bargaining := .evaluated deal.bargaining.result
  delivery := .evaluated deal.delivery.result
  recourse := .evaluated deal.recourse.result
  trace := (deal.ledgerOf Stage.order).trace none timestamp deal.fingerprint

/-- The evaluation that a gate stopped, with what the two stages in between found if they ran. -/
def haltedAt (gate : Stage) (blocker : Finding) (stages : List Stage)
    (protection : Slot Protection) (recourse : Slot Recourse) : Evaluation :=
  .halted deal timestamp gate blocker (deal.ledgerOf stages) deal.visibility.result
    deal.price.result deal.condition.result protection recourse

/-- **The evaluation of a deal in closed form**: stopped at the first gate, stopped at the second, or
complete. -/
theorem evaluate_eq :
    deal.evaluate timestamp
      = match deal.stopAt .safety with
        | some blocker =>
          deal.haltedAt timestamp .safety blocker (Stage.order.take 3)
            (.skipped .placeholder .safety) (.skipped .placeholder .safety)
        | none =>
          match deal.stopAt .returns with
          | some blocker =>
            deal.haltedAt timestamp .returns blocker (Stage.order.take 5)
              (.evaluated deal.protection.result) (.evaluated deal.recourse.result)
          | none => deal.complete timestamp := by
  rw [← haltingBlocker?_ledgerOf deal (by decide : Stage.safety ∈ Stage.order.take 3),
    ← haltingBlocker?_ledgerOf deal (by decide : Stage.returns ∈ Stage.order.take 5)]
  -- both sides record the same stages with the same findings
  rfl

/-- **The three ends of an evaluation**, each with what it takes to get there: a failed blocker at the first
gate, one at the second and none at the first, or none at either of them. -/
theorem evaluate_cases :
    (∃ blocker, deal.stopAt .safety = some blocker
        ∧ deal.evaluate timestamp
          = deal.haltedAt timestamp .safety blocker (Stage.order.take 3)
              (.skipped .placeholder .safety) (.skipped .placeholder .safety))
      ∨ (∃ blocker, deal.stopAt .safety = none ∧ deal.stopAt .returns = some blocker
        ∧ deal.evaluate timestamp
          = deal.haltedAt timestamp .returns blocker (Stage.order.take 5)
              (.evaluated deal.protection.result) (.evaluated deal.recourse.result))
      ∨ (deal.stopAt .safety = none ∧ deal.stopAt .returns = none
        ∧ deal.evaluate timestamp = deal.complete timestamp) := by
  rw [evaluate_eq]
  cases hsafety : deal.stopAt .safety with
  | some blocker => exact Or.inl ⟨blocker, rfl, rfl⟩
  | none =>
      cases hreturns : deal.stopAt .returns with
      | some blocker => exact Or.inr (Or.inl ⟨blocker, rfl, rfl, rfl⟩)
      | none => exact Or.inr (Or.inr ⟨rfl, rfl, rfl⟩)

section Halted

variable (gate : Stage) (blocker : Finding) (stages : List Stage) (protection : Slot Protection)
  (recourse : Slot Recourse)

@[simp] theorem findings_haltedAt :
    (deal.haltedAt timestamp gate blocker stages protection recourse).trace.findings
      = deal.findingsOf stages :=
  deal.findings_ledgerOf stages

@[simp] theorem stages_haltedAt :
    (deal.haltedAt timestamp gate blocker stages protection recourse).trace.stages = stages :=
  deal.stages_ledgerOf stages

end Halted

@[simp] theorem findings_complete :
    (deal.complete timestamp).trace.findings = deal.findingsOf Stage.order :=
  deal.findings_ledgerOf Stage.order

@[simp] theorem stages_complete : (deal.complete timestamp).trace.stages = Stage.order :=
  deal.stages_ledgerOf Stage.order

/-- No gate is in front of the first three stages, so their results are part of every evaluation. -/
theorem ungated_evaluate :
    (deal.evaluate timestamp).visibility = deal.visibility.result
      ∧ (deal.evaluate timestamp).price = deal.price.result
      ∧ (deal.evaluate timestamp).condition = deal.condition.result := by
  rcases deal.evaluate_cases timestamp with ⟨blocker, -, heq⟩ | ⟨blocker, -, -, heq⟩ | ⟨-, -, heq⟩
  · rw [heq]
    exact ⟨rfl, rfl, rfl⟩
  · rw [heq]
    exact ⟨rfl, rfl, rfl⟩
  · rw [heq]
    exact ⟨rfl, rfl, rfl⟩

theorem visibility_evaluate : (deal.evaluate timestamp).visibility = deal.visibility.result :=
  (deal.ungated_evaluate timestamp).1

theorem price_evaluate : (deal.evaluate timestamp).price = deal.price.result :=
  (deal.ungated_evaluate timestamp).2.1

theorem condition_evaluate : (deal.evaluate timestamp).condition = deal.condition.result :=
  (deal.ungated_evaluate timestamp).2.2

/-! ## Where it stops, and what is left of it -/

/-- The gate that stops a deal and the finding by which it does, if any gate does. -/
def halt? : Option (Stage × Finding) :=
  ((deal.stopAt .safety).map (Prod.mk .safety)).or
    ((deal.stopAt .returns).map (Prod.mk .returns))

/-- The stages that run: all of them, or those up to the gate that stops the deal. -/
def course : List Stage :=
  match deal.halt? with
  | some (.safety, _) => Stage.order.take 3
  | some _ => Stage.order.take 5
  | none => Stage.order

/-- What it takes to be stopped at a gate: a failed blocker there, and for the second gate none at the first. -/
theorem stopAt_of_halt? {gate : Stage} {blocker : Finding}
    (hhalt : deal.halt? = some (gate, blocker)) :
    (gate = .safety ∧ deal.stopAt .safety = some blocker)
      ∨ (gate = .returns ∧ deal.stopAt .safety = none ∧ deal.stopAt .returns = some blocker) := by
  rw [halt?, Option.or_eq_some_iff] at hhalt
  rcases hhalt with hsafety | ⟨hpassed, hreturns⟩
  · obtain ⟨found, hfound, heq⟩ := Option.map_eq_some_iff.mp hsafety
    obtain ⟨rfl, rfl⟩ := Prod.mk.inj heq
    exact Or.inl ⟨rfl, hfound⟩
  · obtain ⟨found, hfound, heq⟩ := Option.map_eq_some_iff.mp hreturns
    obtain ⟨rfl, rfl⟩ := Prod.mk.inj heq
    exact Or.inr ⟨rfl, Option.map_eq_none_iff.mp hpassed, hfound⟩

/-- A deal that no gate stops failed no blocker at either of them. -/
theorem stopAt_of_halt?_eq_none (hhalt : deal.halt? = none) :
    deal.stopAt .safety = none ∧ deal.stopAt .returns = none := by
  rw [halt?, Option.or_eq_none_iff, Option.map_eq_none_iff, Option.map_eq_none_iff] at hhalt
  exact hhalt

/-- The gate that stops a deal is the last stage that runs. -/
theorem course_of_halt? {gate : Stage} {blocker : Finding}
    (hhalt : deal.halt? = some (gate, blocker)) :
    ∃ before, deal.course = before ++ [gate] := by
  rcases deal.stopAt_of_halt? hhalt with ⟨rfl, _⟩ | ⟨rfl, _, _⟩
  · refine ⟨Stage.order.take 2, ?_⟩
    rw [course, hhalt]
    rfl
  · refine ⟨Stage.order.take 4, ?_⟩
    rw [course, hhalt]
    rfl

/-- A deal that no gate stops goes through all stages. -/
theorem course_of_halt?_eq_none (hhalt : deal.halt? = none) : deal.course = Stage.order := by
  rw [course, hhalt]

/-- The trace of an evaluation is that of the ledger of its course. -/
theorem trace_evaluate :
    (deal.evaluate timestamp).trace
      = (deal.ledgerOf deal.course).trace deal.halt? timestamp deal.fingerprint := by
  rw [evaluate_eq, course]
  cases hhalt : deal.halt? with
  | some halt =>
      obtain ⟨gate, blocker⟩ := halt
      rcases deal.stopAt_of_halt? hhalt with ⟨rfl, hsafety⟩ | ⟨rfl, hsafety, hreturns⟩
      · rw [hsafety]
        rfl
      · rw [hsafety, hreturns]
        rfl
  | none =>
      obtain ⟨hsafety, hreturns⟩ := deal.stopAt_of_halt?_eq_none hhalt
      rw [hsafety, hreturns]
      rfl

/-- The trace names the deal by its fingerprint. -/
theorem fingerprint_trace_evaluate : (deal.evaluate timestamp).trace.fingerprint = deal.fingerprint := by
  rw [trace_evaluate]
  rfl

/-- The trace keeps the timestamp as it was given. -/
theorem timestamp_trace_evaluate : (deal.evaluate timestamp).trace.timestamp = timestamp := by
  rw [trace_evaluate]
  rfl

/-- The trace is made under the ruleset of this library. -/
theorem rulesetVersion_trace_evaluate : (deal.evaluate timestamp).trace.rulesetVersion = rulesetVersion := by
  rw [trace_evaluate]
  rfl

/-- The findings of an evaluation are those of the stages that ran, in their order. -/
theorem findings_trace_evaluate :
    (deal.evaluate timestamp).trace.findings = deal.findingsOf deal.course := by
  rw [trace_evaluate, Ledger.trace, findings_ledgerOf]

/-- The stages in the trace are those that ran. -/
theorem stages_trace_evaluate : (deal.evaluate timestamp).trace.stages = deal.course := by
  rw [trace_evaluate, Ledger.trace, stages_ledgerOf]

/-- Nothing is skipped of a deal that no gate stops. -/
theorem mem_stages_of_halt?_eq_none (hhalt : deal.halt? = none) (stage : Stage) :
    stage ∈ (deal.evaluate timestamp).trace.stages := by
  rw [stages_trace_evaluate, course_of_halt?_eq_none _ hhalt]
  cases stage <;> decide

/-- The verdict of an evaluation that was stopped is forced by the finding that stopped it. -/
theorem verdict_evaluate_of_some {gate : Stage} {blocker : Finding}
    (hhalt : deal.halt? = some (gate, blocker)) :
    (deal.evaluate timestamp).verdict
      = .forced blocker (deal.findingsOf deal.course) deal.buyer.riskTolerance := by
  rw [← findings_ledgerOf, evaluate_eq, course, hhalt]
  rcases deal.stopAt_of_halt? hhalt with ⟨rfl, hsafety⟩ | ⟨rfl, hsafety, hreturns⟩
  · rw [hsafety]
    rfl
  · rw [hsafety, hreturns]
    rfl

/-- The verdict of an evaluation that ran to its end aggregates what all stages found. -/
theorem verdict_evaluate_of_none (hhalt : deal.halt? = none) :
    (deal.evaluate timestamp).verdict = deal.conclusion.result := by
  obtain ⟨hsafety, hreturns⟩ := deal.stopAt_of_halt?_eq_none hhalt
  rw [evaluate_eq, hsafety, hreturns]
  rfl

/-! ## The blocker that stops a deal -/

/-- **The first failed blocker of all that was found is the one that stopped the deal.** No stage in front of
a gate and no stage behind the last one can fail a blocker. -/
theorem find?_findingsOf_course :
    (deal.findingsOf deal.course).find? Finding.isFailedBlocker = deal.halt?.map Prod.snd := by
  -- searching what stages found is searching stage by stage
  have hstop : ∀ stages : List Stage,
      (deal.findingsOf stages).find? Finding.isFailedBlocker = stages.findSome? deal.stopAt := by
    intro stages
    rw [findingsOf, List.find?_flatMap]
    rfl
  have hothers : ∀ stage, stage ≠ .safety → stage ≠ .returns → deal.stopAt stage = none :=
    fun _ hsafety hreturns => deal.stopAt_eq_none hsafety hreturns
  rw [hstop, course]
  cases hhalt : deal.halt? with
  | some halt =>
      obtain ⟨gate, blocker⟩ := halt
      rcases deal.stopAt_of_halt? hhalt with ⟨rfl, hsafety⟩ | ⟨rfl, hsafety, hreturns⟩
      · simp [Stage.order, hothers, hsafety]
      · simp [Stage.order, hothers, hsafety, hreturns]
  | none =>
      obtain ⟨hsafety, hreturns⟩ := deal.stopAt_of_halt?_eq_none hhalt
      simp [Stage.order, hothers, hsafety, hreturns]

/-! ## How much is found -/

/-- No stage finds more than eight things. -/
theorem length_findingsAt_le (stage : Stage) : (deal.findingsAt stage).length ≤ 8 := by
  cases stage with
  | damage => exact (by decide : 2 ≤ 8)
  | pricing => exact (by decide : 3 ≤ 8)
  | safety =>
      rw [findingsAt, condition]
      cases deal.inspection with
      | none => exact Nat.zero_le 8
      | some inspection => exact Nat.le_refl 8
  | warranty =>
      rw [findingsAt, protection, Protection.assess]
      split_ifs <;> simp
  | returns =>
      simp only [findingsAt, recourse, Recourse.assess]
      split_ifs <;> simp
  | negotiation => exact (by decide : 3 ≤ 8)
  | logistics => exact (by decide : 3 ≤ 8)
  | verdict => exact (by decide : 1 ≤ 8)

theorem length_findingsOf_le (stages : List Stage) :
    (deal.findingsOf stages).length ≤ 8 * stages.length := by
  induction stages with
  | nil => exact Nat.le_refl 0
  | cons stage rest ih =>
      have hstage := deal.length_findingsAt_le stage
      rw [findingsOf, List.flatMap_cons, List.length_append, ← findingsOf, List.length_cons]
      omega

/-- An evaluation never finds so much that one of its counts could overflow. -/
theorem length_findingsOf_course_lt : (deal.findingsOf deal.course).length < UInt32.size := by
  have hcourse : deal.course.length ≤ 8 := by
    unfold course
    split <;> decide
  have hle := deal.length_findingsOf_le deal.course
  have hsize : 8 * 8 < UInt32.size := by decide
  omega

/-! ## The verdict when no gate stops the deal -/

/-- The last stage aggregates what all stages before it found. -/
theorem grounds_eq : deal.grounds = deal.findingsOf (Stage.order.take 7) := by
  simp [findingsOf, findingsAt, grounds, Stage.order]

/-- All stages find what the last one aggregates, and behind it what the last one finds. -/
theorem findingsOf_order : deal.findingsOf Stage.order = deal.grounds ++ deal.conclusion.findings := by
  simp [findingsOf, findingsAt, grounds, Stage.order]

/-- What the last stage says of itself is passed, so that the findings of a complete trace weigh as much as
those that the last stage aggregated. -/
theorem assess_findingsOf_order :
    (Verdict.assess (deal.findingsOf Stage.order) deal.buyer.riskTolerance).result
      = deal.conclusion.result := by
  have hpassed : ∀ f ∈ deal.conclusion.findings, f.passed = true :=
    fun f hf => Verdict.passed_of_mem_assess hf
  rw [findingsOf_order, Verdict.assess_append_passed hpassed, conclusion]

/-- **Without a halt the warnings decide alone.** -/
theorem verdict_of_clear (hhalt : deal.halt? = none) :
    let verdict := (deal.evaluate timestamp).verdict
    let warnings := (deal.findingsOf Stage.order).countP Finding.isFailedWarning
    verdict.failedBlockers = 0
      ∧ verdict.forcedByHalt = false
      ∧ verdict.failedWarnings.toNat = warnings
      ∧ verdict.recommendation = .ofWarnings warnings deal.buyer.riskTolerance.skipThreshold.toNat
      ∧ verdict.confidence = .ofWarnings warnings := by
  intro verdict warnings
  have hcourse := deal.course_of_halt?_eq_none hhalt
  have hclear : (deal.findingsOf Stage.order).find? Finding.isFailedBlocker = none := by
    rw [← hcourse, find?_findingsOf_course, hhalt, Option.map_none]
  have hlength : (deal.findingsOf Stage.order).length < UInt32.size := by
    rw [← hcourse]
    exact deal.length_findingsOf_course_lt
  have hverdict : verdict
      = (Verdict.assess (deal.findingsOf Stage.order) deal.buyer.riskTolerance).result := by
    rw [assess_findingsOf_order]
    exact deal.verdict_evaluate_of_none timestamp hhalt
  obtain ⟨hblockers, hwarnings, hrecommendation, hconfidence⟩ :=
    Verdict.assess_of_clear hclear hlength deal.buyer.riskTolerance
  rw [hverdict]
  exact ⟨hblockers, rfl, hwarnings, hrecommendation, hconfidence⟩

end Appraisal.Deal
