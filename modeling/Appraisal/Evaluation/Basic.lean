/-
The evaluation of a deal, from the facts to the verdict.

Eight stages run in a fixed order, and two of them are gates. If the inspection found a hazard, or if the
sale is final and there is no warranty, the evaluation stops at that stage: what was found so far is kept,
the verdict is forced, and the results that are missing are filled with placeholders that claim nothing
good. A reader of the result always finds every part, and can tell a placeholder from a result.

Nothing but the deal and the timestamp goes into an evaluation, and the timestamp is only copied into the
trace.
-/
import Appraisal.Assessment.Bargaining
import Appraisal.Assessment.Condition
import Appraisal.Assessment.Delivery
import Appraisal.Assessment.Price
import Appraisal.Assessment.Protection
import Appraisal.Assessment.Recourse
import Appraisal.Assessment.Verdict
import Appraisal.Assessment.Visibility
import Appraisal.Fingerprint
import Appraisal.Trace.Basic

set_option autoImplicit false

namespace Appraisal

/-! ## Slots -/

/-- The result of a stage that may have been skipped. -/
inductive Slot (α : Type) where
  | evaluated (value : α)
  | skipped (placeholder : α) (haltedAt : Stage)

namespace Slot

variable {α : Type}

/-- Did the stage run? -/
def isEvaluated : Slot α → Bool
  | evaluated _ => true
  | skipped .. => false

/-- The result, or what stands in for it. -/
def value : Slot α → α
  | evaluated value => value
  | skipped placeholder _ => placeholder

end Slot

/-! ## Evaluations -/

/-- Everything that an evaluation says about a deal. -/
structure Evaluation where
  verdict : Verdict
  price : Price
  visibility : Visibility
  protection : Slot Protection
  condition : Condition
  bargaining : Slot Bargaining
  delivery : Slot Delivery
  recourse : Slot Recourse
  trace : Trace

/-- The evaluation that stops at a stage because of a finding, with the findings made so far. The gates
stand in front of the negotiation and the delivery, so those two are always skipped. -/
def Evaluation.halted (deal : Deal) (timestamp : String) (stage : Stage) (blocker : Finding)
    (ledger : Ledger) (visibility : Visibility) (price : Price) (condition : Condition)
    (protection : Slot Protection) (recourse : Slot Recourse) : Evaluation where
  verdict := .forced blocker ledger.findings deal.buyer.riskTolerance
  price
  visibility
  protection
  condition
  bargaining := .skipped (.placeholder deal.appliance.askingPrice) stage
  delivery := .skipped .placeholder stage
  recourse
  trace := ledger.trace (some (stage, blocker)) timestamp deal.fingerprint

/-- Evaluates a deal and puts the given timestamp into the trace. -/
def Deal.evaluate (deal : Deal) (timestamp : String) : Evaluation :=
  let visibility := Visibility.assess deal.damage deal.installation
  let price := Price.assess deal.appliance visibility.result.tier
  let condition := Condition.assess deal.inspection
  let ledger := Ledger.empty
    |>.record .damage visibility.findings
    |>.record .pricing price.findings
    |>.record .safety condition.findings
  match ledger.haltingBlocker? .safety with
  | some blocker =>
    .halted deal timestamp .safety blocker ledger visibility.result price.result condition.result
      (.skipped .placeholder .safety) (.skipped .placeholder .safety)
  | none =>
    let protection := Protection.assess deal.warranty price.result.savings
    let recourse := Recourse.assess deal.returnPolicy deal.warranty
    let ledger := ledger
      |>.record .warranty protection.findings
      |>.record .returns recourse.findings
    match ledger.haltingBlocker? .returns with
    | some blocker =>
      .halted deal timestamp .returns blocker ledger visibility.result price.result
        condition.result (.evaluated protection.result) (.evaluated recourse.result)
    | none =>
      let bargaining := Bargaining.assess deal visibility.result.tier price.result
      let delivery := Delivery.assess deal.appliance deal.installation
      let ledger := ledger
        |>.record .negotiation bargaining.findings
        |>.record .logistics delivery.findings
      let verdict := Verdict.assess ledger.findings deal.buyer.riskTolerance
      let ledger := ledger.record .verdict verdict.findings
      { verdict := verdict.result
        price := price.result
        visibility := visibility.result
        protection := .evaluated protection.result
        condition := condition.result
        bargaining := .evaluated bargaining.result
        delivery := .evaluated delivery.result
        recourse := .evaluated recourse.result
        trace := ledger.trace none timestamp deal.fingerprint }

end Appraisal
