/-
Evaluations outside some of their passages.

To say that something has no influence on most of an evaluation, the passages on which it may have one are
named and struck out, and what is left is compared. Striking out blanks a passage and keeps everything around
it. So a slot whose result is struck out still tells whether its stage ran, and a finding that loses its
message keeps its place, its severity and its outcome.

Two deals that agree outside some passages stage by stage have evaluations that agree outside them, as long
as no finding that is struck out could ever weigh in a verdict. Then both deals fail the same blockers and the
same warnings, are stopped by the same gate, and come to the same verdict.
-/
import Appraisal.Proofs.Published

set_option autoImplicit false

namespace Appraisal

/-! ## Passages -/

/-- A passage of an evaluation that can be struck out: of the verdict, of a result or of the trace. A finding
can be struck out as a whole or lose only its message. -/
inductive Passage where
  | recommendation | summary | skipThreshold
  | safetyWarnings | coverageGaps | recourse | bargaining | leverage | otherAsks | delivery
  | finding (ruleId : String)
  | message (ruleId : String)
  | timestamp | fingerprint
  deriving DecidableEq

namespace Passage

/-- A value, or a blank if the passage that it stands for is struck out. -/
def strike {α : Type} (struck : List Passage) (passage : Passage) (blank value : α) : α :=
  if passage ∈ struck then blank else value

/-- What is struck out may differ. -/
theorem strike_congr {α : Type} {struck : List Passage} {passage : Passage} {blank value value' : α}
    (h : passage ∈ struck ∨ value = value') :
    strike struck passage blank value = strike struck passage blank value' := by
  rcases h with hstruck | rfl
  · rw [strike, strike, if_pos hstruck, if_pos hstruck]
  · rfl

/-- None of the passages is a finding, or the message of one, with a rule of blockers or warnings. -/
def AreWeightless (struck : List Passage) : Prop :=
  ∀ rule ∈ Rule.catalog, rule.severity ≠ .info → finding rule.id ∉ struck ∧ message rule.id ∉ struck

instance (struck : List Passage) : Decidable (AreWeightless struck) :=
  inferInstanceAs (Decidable (∀ rule ∈ Rule.catalog, _ → _))

/-- What a buyer's tolerance has to do with. -/
def ofTolerance : List Passage :=
  [recommendation, summary, skipThreshold, message Rule.recommendation.id]

end Passage

open Passage (strike strike_congr)

/-! ## What is left of an evaluation -/

section Outside

variable (struck : List Passage)

/-- What is left of a verdict. -/
def Verdict.outside (verdict : Verdict) : Verdict :=
  { verdict with
    recommendation := strike struck .recommendation .walkAway verdict.recommendation
    summary := strike struck .summary "" verdict.summary
    skipThreshold := strike struck .skipThreshold 0 verdict.skipThreshold }

/-- What is left of the condition. -/
def Condition.outside (condition : Condition) : Condition :=
  { condition with warnings := strike struck .safetyWarnings [] condition.warnings }

/-- What is left of the warranties. -/
def Protection.outside (protection : Protection) : Protection :=
  { protection with gaps := strike struck .coverageGaps [] protection.gaps }

/-- What is left of the terms of return. -/
def Recourse.outside (recourse : Recourse) : Recourse :=
  strike struck .recourse .placeholder recourse

/-- What is left of the negotiation. -/
def Bargaining.outside (bargaining : Bargaining) : Bargaining :=
  strike struck .bargaining (.placeholder 0.0)
    { bargaining with
      leverage := strike struck .leverage [] bargaining.leverage
      otherAsks := strike struck .otherAsks [] bargaining.otherAsks }

/-- What is left of the delivery. -/
def Delivery.outside (delivery : Delivery) : Delivery :=
  strike struck .delivery .placeholder delivery

/-- A slot with its result changed, if it holds one; a placeholder stays as it is. -/
def Slot.mapResult {α : Type} (change : α → α) : Slot α → Slot α
  | evaluated value => evaluated (change value)
  | skipped placeholder gate => skipped placeholder gate

/-- A finding without its message, if that is struck out. -/
def Finding.hushed (f : Finding) : Finding :=
  { f with message := strike struck (.message f.ruleId) "" f.message }

/-- What is left of a finding, if anything is. -/
def Finding.outside (f : Finding) : Option Finding :=
  if .finding f.ruleId ∈ struck then none else some (f.hushed struck)

/-- What is left of findings, in their order. -/
def Finding.allOutside (findings : List Finding) : List Finding :=
  findings.filterMap (Finding.outside struck)

/-- What is left of a trace. -/
def Trace.outside (trace : Trace) : Trace :=
  { trace with
    findings := Finding.allOutside struck trace.findings
    timestamp := strike struck .timestamp "" trace.timestamp
    fingerprint := strike struck .fingerprint "" trace.fingerprint }

/-- What is left of an evaluation. The price and the visibility of the damage are never struck out. -/
def Evaluation.outside (evaluation : Evaluation) : Evaluation :=
  { evaluation with
    verdict := evaluation.verdict.outside struck
    condition := evaluation.condition.outside struck
    protection := evaluation.protection.mapResult (Protection.outside struck)
    recourse := evaluation.recourse.mapResult (Recourse.outside struck)
    bargaining := evaluation.bargaining.mapResult (Bargaining.outside struck)
    delivery := evaluation.delivery.mapResult (Delivery.outside struck)
    trace := evaluation.trace.outside struck }

end Outside

/-! ## What is struck out can be changed -/

section Changes

variable {struck : List Passage}

theorem Condition.outside_warnings (h : .safetyWarnings ∈ struck) (condition : Condition)
    (warnings : List String) :
    ({ condition with warnings } : Condition).outside struck = condition.outside struck := by
  simp only [outside, strike, if_pos h]

theorem Protection.outside_gaps (h : .coverageGaps ∈ struck) (protection : Protection) (gaps : List String) :
    ({ protection with gaps } : Protection).outside struck = protection.outside struck := by
  simp only [outside, strike, if_pos h]

theorem Recourse.outside_congr (h : .recourse ∈ struck) (recourse recourse' : Recourse) :
    recourse.outside struck = recourse'.outside struck :=
  strike_congr (Or.inl h)

theorem Bargaining.outside_congr (h : .bargaining ∈ struck) (bargaining bargaining' : Bargaining) :
    bargaining.outside struck = bargaining'.outside struck :=
  strike_congr (Or.inl h)

theorem Bargaining.outside_leverage (h : .leverage ∈ struck) (bargaining : Bargaining)
    (leverage : List String) :
    ({ bargaining with leverage } : Bargaining).outside struck = bargaining.outside struck := by
  rw [outside, outside, strike_congr (Or.inl h)]

theorem Bargaining.outside_otherAsks (h : .otherAsks ∈ struck) (bargaining : Bargaining)
    (otherAsks : List String) :
    ({ bargaining with otherAsks } : Bargaining).outside struck = bargaining.outside struck := by
  rw [outside, outside, strike_congr (Or.inl h)]

theorem Delivery.outside_congr (h : .delivery ∈ struck) (delivery delivery' : Delivery) :
    delivery.outside struck = delivery'.outside struck :=
  strike_congr (Or.inl h)

end Changes

/-! ## What is left of findings -/

namespace Finding

variable {struck : List Passage}

@[simp] theorem allOutside_append (findings others : List Finding) :
    allOutside struck (findings ++ others) = allOutside struck findings ++ allOutside struck others :=
  List.filterMap_append

theorem allOutside_cons_congr {f g : Finding} {rest rest' : List Finding}
    (hfirst : f.outside struck = g.outside struck)
    (hrest : allOutside struck rest = allOutside struck rest') :
    allOutside struck (f :: rest) = allOutside struck (g :: rest') := by
  rw [allOutside, allOutside] at *
  rw [List.filterMap_cons, List.filterMap_cons, hfirst, hrest]

theorem outside_of_struck {f : Finding} (h : .finding f.ruleId ∈ struck) : f.outside struck = none :=
  if_pos h

theorem outside_of_kept {f : Finding} (hfinding : .finding f.ruleId ∉ struck)
    (hmessage : .message f.ruleId ∉ struck) : f.outside struck = some f := by
  rw [outside, if_neg hfinding, hushed, strike, if_neg hmessage]

theorem allOutside_of_struck {findings : List Finding}
    (h : ∀ f ∈ findings, .finding f.ruleId ∈ struck) : allOutside struck findings = [] :=
  List.filterMap_eq_nil_iff.mpr fun f hf => outside_of_struck (h f hf)

theorem allOutside_singleton_of_struck {f : Finding} (h : .finding f.ruleId ∈ struck) :
    allOutside struck [f] = [] :=
  List.filterMap_cons_none (outside_of_struck h)

/-- What weighs in a verdict is left, if nothing that weighs was struck out. -/
theorem filter_isFailure_allOutside {findings : List Finding}
    (hkept : ∀ f ∈ findings, f.isFailure = true → f.outside struck = some f) :
    (allOutside struck findings).filter isFailure = findings.filter isFailure := by
  induction findings with
  | nil => rfl
  | cons f rest ih =>
      have hrest := ih fun g hg => hkept g (List.mem_cons_of_mem f hg)
      rw [allOutside] at hrest ⊢
      cases hfails : f.isFailure with
      | true =>
          rw [List.filterMap_cons_some (hkept f List.mem_cons_self hfails),
            List.filter_cons_of_pos hfails, List.filter_cons_of_pos hfails, hrest]
      | false =>
          have hf : ¬ f.isFailure = true := by rw [hfails]; exact Bool.false_ne_true
          rw [List.filter_cons_of_neg hf]
          by_cases hstruck : .finding f.ruleId ∈ struck
          · rw [List.filterMap_cons_none (outside_of_struck hstruck), hrest]
          · -- without its message the finding fails no more than with it
            have houtside : f.outside struck = some (f.hushed struck) := if_neg hstruck
            have hhushed : ¬ (f.hushed struck).isFailure = true := hf
            rw [List.filterMap_cons_some houtside, List.filter_cons_of_neg hhushed, hrest]

end Finding

/-- A finding whose message is struck out does not depend on it. -/
theorem Rule.outside_finding {struck : List Passage} {rule : Rule} (hmessage : .message rule.id ∈ struck)
    (passed : Bool) (message message' : String) (inputs outputs : List String) :
    (rule.finding passed message inputs outputs).outside struck
      = (rule.finding passed message' inputs outputs).outside struck := by
  have hstruck : strike struck (.message rule.id) "" message = strike struck (.message rule.id) "" message' :=
    strike_congr (Or.inl hmessage)
  have hhushed : (rule.finding passed message inputs outputs).hushed struck
      = (rule.finding passed message' inputs outputs).hushed struck := by
    simp only [Finding.hushed, Rule.finding, hstruck]
  rw [Finding.outside, Finding.outside, hhushed]
  rfl

/-! ## What is left of a verdict -/

namespace Verdict

variable {struck : List Passage} {findings findings' : List Finding} {tolerance tolerance' : RiskTolerance}

/-- The aggregated verdict, and the finding about it, for buyers who tolerate the same or when what a
tolerance has to do with is struck out. -/
theorem outside_assess
    (hfailures : findings.filter Finding.isFailure = findings'.filter Finding.isFailure)
    (htolerance : tolerance = tolerance' ∨ Passage.ofTolerance ⊆ struck) :
    (assess findings tolerance).result.outside struck = (assess findings' tolerance').result.outside struck
      ∧ Finding.allOutside struck (assess findings tolerance).findings
        = Finding.allOutside struck (assess findings' tolerance').findings := by
  -- a verdict reads its findings only as far as they fail
  rw [← assess_filter_isFailure findings, hfailures, assess_filter_isFailure]
  rcases htolerance with rfl | hstruck
  · exact ⟨rfl, rfl⟩
  · have hconfidence := confidenceOf_recommend (count (blockersIn findings'))
      (count (warningsIn findings')) tolerance tolerance'
    refine ⟨?_, ?_⟩
    · simp only [outside, assess, mk.injEq, hconfidence, true_and, and_true]
      exact ⟨strike_congr (Or.inl (hstruck (by decide))), strike_congr (Or.inl (hstruck (by decide))),
        strike_congr (Or.inl (hstruck (by decide)))⟩
    · exact Finding.allOutside_cons_congr (Rule.outside_finding (hstruck (by decide)) _ _ _ _ _) rfl

/-- The forced verdict likewise. -/
theorem outside_forced (blocker : Finding)
    (hfailures : findings.filter Finding.isFailure = findings'.filter Finding.isFailure)
    (htolerance : tolerance = tolerance' ∨ Passage.ofTolerance ⊆ struck) :
    (forced blocker findings tolerance).outside struck
      = (forced blocker findings' tolerance').outside struck := by
  rw [← forced_filter_isFailure, hfailures, forced_filter_isFailure]
  rcases htolerance with rfl | hstruck
  · rfl
  · simp only [outside, forced, mk.injEq, true_and, and_true]
    exact strike_congr (Or.inl (hstruck (by decide)))

end Verdict

/-! ## Agreement, stage by stage -/

namespace Deal

/-- Two deals that differ, as far as the stages before the last one can tell, only in the given passages. The
buyers tolerate the same, or what a tolerance has to do with is struck out. -/
structure AgreeOutside (struck : List Passage) (deal other : Deal) : Prop where
  visibility : deal.visibility.result = other.visibility.result
  price : deal.price.result = other.price.result
  condition : deal.condition.result.outside struck = other.condition.result.outside struck
  protection : deal.protection.result.outside struck = other.protection.result.outside struck
  recourse : deal.recourse.result.outside struck = other.recourse.result.outside struck
  bargaining : deal.bargaining.result.outside struck = other.bargaining.result.outside struck
  delivery : deal.delivery.result.outside struck = other.delivery.result.outside struck
  findings : ∀ stage, stage ≠ .verdict →
    Finding.allOutside struck (deal.findingsAt stage) = Finding.allOutside struck (other.findingsAt stage)
  tolerance : deal.buyer.riskTolerance = other.buyer.riskTolerance
    ∨ Passage.ofTolerance ⊆ struck
  fingerprint : .fingerprint ∈ struck ∨ deal.fingerprint = other.fingerprint

variable {struck : List Passage} {deal other : Deal} {timestamp timestamp' : String}

/-- A finding that weighs is never struck out. -/
theorem outside_of_isFailure (hlight : Passage.AreWeightless struck) {stage : Stage} {f : Finding}
    (hf : f ∈ deal.findingsAt stage) (hfails : f.isFailure = true) : f.outside struck = some f := by
  obtain ⟨rule, hrule, hid, hseverity⟩ := exists_rule_of_mem_findingsAt hf
  have hpublished : rule ∈ Rule.catalog := (List.mem_filter.mp hrule).1
  have hweighs : rule.severity ≠ .info := by
    rw [← hseverity]
    simp only [Finding.isFailure, Bool.and_eq_true, decide_eq_true_eq] at hfails
    exact hfails.1
  obtain ⟨hfinding, hmessage⟩ := hlight rule hpublished hweighs
  exact Finding.outside_of_kept (hid ▸ hfinding) (hid ▸ hmessage)

namespace AgreeOutside

/-- The deals fail the same at every stage. -/
theorem failuresAt (h : AgreeOutside struck deal other) (hlight : Passage.AreWeightless struck)
    (stage : Stage) :
    (deal.findingsAt stage).filter Finding.isFailure = (other.findingsAt stage).filter Finding.isFailure := by
  by_cases hlast : stage = .verdict
  · -- the last stage never fails
    have hnone : ∀ deal : Deal, (deal.findingsAt .verdict).filter Finding.isFailure = [] := by
      intro deal
      rw [List.filter_eq_nil_iff]
      intro f hf
      rw [Finding.isFailure, Verdict.passed_of_mem_assess hf, Bool.not_true, Bool.and_false]
      exact Bool.false_ne_true
    rw [hlast, hnone, hnone]
  · rw [← Finding.filter_isFailure_allOutside fun f hf hfails => outside_of_isFailure hlight hf hfails,
      h.findings stage hlast,
      Finding.filter_isFailure_allOutside fun f hf hfails => outside_of_isFailure hlight hf hfails]

/-- What weighs in the verdict is the same after any run of stages. -/
theorem failuresOf (h : AgreeOutside struck deal other) (hlight : Passage.AreWeightless struck)
    (stages : List Stage) :
    (deal.findingsOf stages).filter Finding.isFailure
      = (other.findingsOf stages).filter Finding.isFailure := by
  rw [findingsOf, findingsOf, List.filter_flatMap, List.filter_flatMap]
  exact congrArg stages.flatMap (funext (h.failuresAt hlight))

/-- The same gates stop the deals, by the same findings. -/
theorem stopAt (h : AgreeOutside struck deal other) (hlight : Passage.AreWeightless struck) (stage : Stage) :
    deal.stopAt stage = other.stopAt stage := by
  -- a failed blocker is a failure, so the first one is found among the failures
  have hfailures : ∀ findings : List Finding,
      (findings.filter Finding.isFailure).find? Finding.isFailedBlocker
        = findings.find? Finding.isFailedBlocker := by
    intro findings
    have hblockers := congrArg List.head? (Verdict.blockersIn_filter_isFailure findings)
    rw [Verdict.blockersIn, Verdict.blockersIn, List.head?_filter, List.head?_filter] at hblockers
    exact hblockers
  rw [Deal.stopAt, Deal.stopAt, ← hfailures, h.failuresAt hlight, hfailures]

/-- What is left of the findings is the same, as long as the last stage did not run. -/
theorem findingsOf (h : AgreeOutside struck deal other) {stages : List Stage} (hlast : .verdict ∉ stages) :
    Finding.allOutside struck (deal.findingsOf stages)
      = Finding.allOutside struck (other.findingsOf stages) := by
  rw [Deal.findingsOf, Deal.findingsOf, Finding.allOutside, Finding.allOutside, List.filterMap_flatMap,
    List.filterMap_flatMap]
  refine List.flatMap_congr fun stage hstage => ?_
  exact h.findings stage fun hverdict => hlast (hverdict ▸ hstage)

/-- The last stage comes to the same verdict. -/
theorem conclusion (h : AgreeOutside struck deal other) (hlight : Passage.AreWeightless struck) :
    deal.conclusion.result.outside struck = other.conclusion.result.outside struck
      ∧ Finding.allOutside struck deal.conclusion.findings
        = Finding.allOutside struck other.conclusion.findings := by
  have hfailures : deal.grounds.filter Finding.isFailure = other.grounds.filter Finding.isFailure := by
    rw [grounds_eq, grounds_eq]
    exact h.failuresOf hlight _
  exact Verdict.outside_assess hfailures h.tolerance

/-! ## Agreement of evaluations -/

/-- What is left of the trace. -/
theorem trace (h : AgreeOutside struck deal other) (htime : .timestamp ∈ struck ∨ timestamp = timestamp')
    {stages : List Stage} (halt : Option (Stage × Finding))
    (hfindings : Finding.allOutside struck (deal.findingsOf stages)
      = Finding.allOutside struck (other.findingsOf stages)) :
    ((deal.ledgerOf stages).trace halt timestamp deal.fingerprint).outside struck
      = ((other.ledgerOf stages).trace halt timestamp' other.fingerprint).outside struck := by
  simp only [Trace.outside, Ledger.trace, findings_ledgerOf, stages_ledgerOf, hfindings,
    strike_congr htime, strike_congr h.fingerprint]

/-- What is left of evaluations that were stopped by one gate. -/
theorem haltedAt (h : AgreeOutside struck deal other) (hlight : Passage.AreWeightless struck)
    (htime : .timestamp ∈ struck ∨ timestamp = timestamp') (gate : Stage) (blocker : Finding)
    {stages : List Stage} (hlast : .verdict ∉ stages) {protection protection' : Slot Protection}
    {recourse recourse' : Slot Recourse}
    (hprotection : protection.mapResult (Protection.outside struck)
      = protection'.mapResult (Protection.outside struck))
    (hrecourse : recourse.mapResult (Recourse.outside struck)
      = recourse'.mapResult (Recourse.outside struck)) :
    (deal.haltedAt timestamp gate blocker stages protection recourse).outside struck
      = (other.haltedAt timestamp' gate blocker stages protection' recourse').outside struck := by
  have hasking : deal.appliance.askingPrice = other.appliance.askingPrice := congrArg Price.asking h.price
  have hverdict := Verdict.outside_forced blocker (h.failuresOf hlight stages) h.tolerance
  simp only [Evaluation.outside, Deal.haltedAt, Evaluation.halted, h.price, h.visibility, h.condition,
    hprotection, hrecourse, hasking, findings_ledgerOf, hverdict,
    h.trace htime (some (gate, blocker)) (h.findingsOf hlast)]

/-- What is left of evaluations that ran to their end. -/
theorem complete (h : AgreeOutside struck deal other) (hlight : Passage.AreWeightless struck)
    (htime : .timestamp ∈ struck ∨ timestamp = timestamp') :
    (deal.complete timestamp).outside struck = (other.complete timestamp').outside struck := by
  obtain ⟨hverdict, hlast⟩ := h.conclusion hlight
  have hfindings : Finding.allOutside struck (deal.findingsOf Stage.order)
      = Finding.allOutside struck (other.findingsOf Stage.order) := by
    have hearlier : Finding.allOutside struck (deal.findingsOf (Stage.order.take 7))
        = Finding.allOutside struck (other.findingsOf (Stage.order.take 7)) := h.findingsOf (by decide)
    rw [findingsOf_order, findingsOf_order, grounds_eq, grounds_eq, Finding.allOutside_append,
      Finding.allOutside_append, hearlier, hlast]
  simp only [Evaluation.outside, Deal.complete, Slot.mapResult, h.price, h.visibility, h.condition,
    h.protection, h.recourse, h.bargaining, h.delivery, hverdict, h.trace htime none hfindings]

/-- **Deals that agree outside some passages have evaluations that agree outside them**, if no finding is
struck out that could weigh in a verdict. -/
theorem evaluate (h : AgreeOutside struck deal other) (hlight : Passage.AreWeightless struck)
    (htime : .timestamp ∈ struck ∨ timestamp = timestamp') :
    (deal.evaluate timestamp).outside struck = (other.evaluate timestamp').outside struck := by
  -- both deals are stopped where the second one is
  rw [evaluate_eq, evaluate_eq, h.stopAt hlight, h.stopAt hlight]
  cases other.stopAt .safety with
  | some blocker => exact h.haltedAt hlight htime .safety blocker (by decide) rfl rfl
  | none =>
      cases other.stopAt .returns with
      | some blocker =>
          exact h.haltedAt hlight htime .returns blocker (by decide)
            (congrArg Slot.evaluated h.protection) (congrArg Slot.evaluated h.recourse)
      | none => exact h.complete hlight htime

end AgreeOutside

end Deal

end Appraisal
