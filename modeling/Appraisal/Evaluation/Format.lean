/-
The written form of an evaluation.

A slot is a tagged value. If its stage ran, the tag stands in front of the members of the result itself;
if not, the placeholder is a member of its own, beside the stage at which the evaluation was halted. So a
reader who looks for a result where there is none finds the word for that first.
-/
import Appraisal.Assessment.Format
import Appraisal.Evaluation.Basic
import Appraisal.Json.Tagged
import Appraisal.Trace.Format

set_option autoImplicit false

namespace Appraisal

open Json

/-! ## Slots -/

namespace Slot

/-- What the tag of a slot says. -/
inductive Status where
  | evaluated | notEvaluated
  deriving DecidableEq

instance : Vocabulary Status where
  all := [.evaluated, .notEvaluated]
  word
    | .evaluated => "evaluated"
    | .notEvaluated => "not_evaluated"
  mem_all a := by cases a <;> decide
  word_inj a b := by cases a <;> cases b <;> decide

/-- A slot stands two objects deep inside an evaluation, and no text may nest more than a hundred and
twenty-seven of them. -/
def tagging : Tagging :=
  ⟨"status", "internally tagged enum Assessment", 125⟩

/-- An object with one more member in front. -/
def withMember (name : String) (value : Json) : Json → Json
  | .object members => .object ((name, value) :: members)
  | other => other

variable {α : Type} [Codec α]

/-- A slot as JSON. -/
def toJson : Slot α → Json
  | evaluated value => withMember "status" (encode Status.evaluated) (encode value)
  | skipped placeholder haltedAt =>
    .object [
      ("status", encode Status.notEvaluated),
      ("placeholder", encode placeholder),
      ("haltedAt", encode haltedAt)]

/-- Reads what stands beside the tag of a slot. -/
def restDecoder : Status → Decoder (Slot α)
  | .evaluated => fun pass node => (decode pass node).map evaluated
  | .notEvaluated =>
    record "struct variant Assessment::NotEvaluated" ["placeholder", "haltedAt"] fun r =>
      skipped <$> r.get "placeholder" <*> r.get "haltedAt"

instance : Codec (Slot α) where
  encode := toJson
  decode := tagged tagging restDecoder

end Slot

/-! ## The evaluation -/

instance : Codec Evaluation where
  encode e := .object [
    ("verdict", encode e.verdict),
    ("financial", encode e.price),
    ("damageAssessment", encode e.visibility),
    ("warrantyEvaluation", encode e.protection),
    ("safetyGate", encode e.condition),
    ("negotiation", encode e.bargaining),
    ("logistics", encode e.delivery),
    ("returnPolicyAssessment", encode e.recourse),
    ("_trace", encode e.trace)]
  decode := record "struct CompilerOutput"
    ["verdict", "financial", "damageAssessment", "warrantyEvaluation", "safetyGate", "negotiation",
      "logistics", "returnPolicyAssessment", "_trace"] fun r =>
      Evaluation.mk <$> r.get "verdict" <*> r.get "financial" <*> r.get "damageAssessment"
        <*> r.get "warrantyEvaluation" <*> r.get "safetyGate" <*> r.get "negotiation"
        <*> r.get "logistics" <*> r.get "returnPolicyAssessment" <*> r.get "_trace"

end Appraisal
