/-
Whether a deal is fit to be evaluated.

Only what cannot be meant is turned away: a price or a fee that is no finite number, a negative asking
price, a fee that is no percentage, a text that is no timestamp. The checks are made in a fixed order and
the first that fails is the answer. A retail price of zero or less is odd but admitted; it gives no
discount.
-/
import Appraisal.Deal.Basic
import Appraisal.Decimal.Layout
import Appraisal.Timestamp

set_option autoImplicit false

namespace Appraisal

/-- Why a deal is turned away. -/
inductive Refusal where
  | notFinite (field : String)
  | negative (field : String) (value : Float)
  | feeOutOfRange (value : Float)
  | badTimestamp (value : String)

namespace Refusal

/-- A refusal in words. -/
def message : Refusal → String
  | .notFinite field => field ++ " must be a finite number"
  | .negative field value => field ++ " must not be negative (got " ++ Decimal.plain value ++ ")"
  | .feeOutOfRange value =>
    "returnPolicy.restockingFeePercent must be between 0 and 100 (got " ++ Decimal.plain value ++ ")"
  | .badTimestamp value =>
    "options.timestamp '" ++ value ++ "' is not an ISO-8601 / RFC 3339 timestamp"

end Refusal

/-- Is the number a percentage? -/
def isPercentage (x : Float) : Bool :=
  Binary64.isFinite x && 0.0 ≤ x && x ≤ 100.0

/-- Admits a deal that is to be evaluated at the given timestamp, or says why not. -/
def Deal.vet (deal : Deal) (timestamp : String) : Except Refusal Unit :=
  let retail := deal.appliance.retailPrice
  let asking := deal.appliance.askingPrice
  let fee := deal.returnPolicy.restockingFeePercent
  if !Binary64.isFinite retail then .error (.notFinite "appliance.retailPrice")
  else if !Binary64.isFinite asking then .error (.notFinite "appliance.askingPrice")
  else if asking < 0.0 then .error (.negative "appliance.askingPrice" asking)
  else if !isPercentage fee then .error (.feeOutOfRange fee)
  else if !Timestamp.isValid timestamp then .error (.badTimestamp timestamp)
  else .ok ()

/-- A check that may turn a deal away, and what comes behind it. -/
theorem isOk_ite_error {failed : Prop} [Decidable failed] (refusal : Refusal) (next : Except Refusal Unit) :
    (if failed then .error refusal else next).isOk = true ↔ ¬failed ∧ next.isOk = true := by
  by_cases h : failed
  · rw [if_pos h]
    exact iff_of_false Bool.false_ne_true fun hpassed => hpassed.1 h
  · rw [if_neg h]
    exact (and_iff_right h).symm

/-- A deal is admitted exactly if it passes every check. -/
theorem Deal.isOk_vet_iff (deal : Deal) (timestamp : String) :
    (deal.vet timestamp).isOk = true
      ↔ Binary64.isFinite deal.appliance.retailPrice = true
        ∧ Binary64.isFinite deal.appliance.askingPrice = true
        ∧ ¬deal.appliance.askingPrice < 0.0
        ∧ isPercentage deal.returnPolicy.restockingFeePercent = true
        ∧ Timestamp.isValid timestamp = true := by
  have hok : (Except.ok () : Except Refusal Unit).isOk = true := rfl
  simp only [vet, isOk_ite_error, hok, Bool.not_eq_true', Bool.not_eq_false, and_true]

end Appraisal
