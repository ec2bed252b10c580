/-
The desk: where a request to evaluate a deal comes in, and where an earlier evaluation is asked for.

A request is first judged for admission, then evaluated, then kept; a request that is turned away leaves
the store as it was. An evaluation that cannot be kept is not given out either.
-/
import Appraisal.Admission
import Appraisal.Archive
import Appraisal.Deal.Format

set_option autoImplicit false

namespace Appraisal

open Json

/-! ## Requests -/

/-- What is chosen by whoever asks for an evaluation. -/
structure Options where
  timestamp : String

/-- A deal that is to be evaluated. -/
structure Request where
  deal : Deal
  options : Options

instance : Codec Options where
  encode o := .object [("timestamp", encode o.timestamp)]
  decode := record "struct CompilerOptions" ["timestamp"] fun r =>
    Options.mk <$> r.get "timestamp"

instance : Codec Request where
  encode q := .object [("input", encode q.deal), ("options", encode q.options)]
  decode := record "struct EvaluationRequest" ["input", "options"] fun r =>
    Request.mk <$> r.get "input" <*> r.get "options"

/-! ## Answers -/

/-- Why the desk has no evaluation to give. -/
inductive DeskError where
  | refused (refusal : Refusal)
  | unavailable (outage : Outage)
  | notFound (fingerprint : String)

/-- The error in words. -/
def DeskError.message : DeskError → String
  | .refused refusal => refusal.message
  | .unavailable outage => outage.message
  | .notFound fingerprint => "no evaluation cached for input hash " ++ fingerprint

namespace Desk

variable {σ : Type} [Store σ]

/-- Evaluates a request and keeps the evaluation. -/
def evaluate (store : σ) (request : Request) : Except DeskError Evaluation × σ :=
  match request.deal.vet request.options.timestamp with
  | .error refusal => (.error (.refused refusal), store)
  | .ok _ =>
    let evaluation := request.deal.evaluate request.options.timestamp
    match Store.put store (.of evaluation) evaluation with
    | .error outage => (.error (.unavailable outage), store)
    | .ok (_, store) => (.ok evaluation, store)

/-- The evaluation that was last kept for a fingerprint under the ruleset of this library. -/
def lookup (store : σ) (fingerprint : String) : Except DeskError Evaluation :=
  match Store.get? store (.current fingerprint) with
  | .error outage => .error (.unavailable outage)
  | .ok none => .error (.notFound fingerprint)
  | .ok (some evaluation) => .ok evaluation

end Desk

end Appraisal
