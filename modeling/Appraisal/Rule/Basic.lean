/-
Rules, and the findings that an evaluation makes with them.

A rule is a published check: it has an identifier that is never reused, a severity, and the stage of the
evaluation that applies it. A finding is one application of a rule to one deal. It copies identifier and
severity from the rule, so that a finding can be kept and read long after the rule has been replaced, and
adds whether the check was passed, why, which facts were looked at and which results it bears on.

Only two kinds of finding weigh in a verdict: a failed blocker and a failed warning. A finding of severity
`info` may fail too; that is worth telling, and counts for nothing.
-/
import Appraisal.Vocabulary

set_option autoImplicit false

namespace Appraisal

/-! ## Severities and stages -/

/-- How much a failed check weighs. -/
inductive Severity where
  | blocker | warning | info
  deriving DecidableEq

instance : Vocabulary Severity where
  all := [.blocker, .warning, .info]
  word
    | .blocker => "blocker"
    | .warning => "warning"
    | .info => "info"
  mem_all a := by cases a <;> decide
  word_inj a b := by cases a <;> cases b <;> decide

/-- The stages of an evaluation, in the order in which they run. -/
inductive Stage where
  | damage | pricing | safety | warranty | returns | negotiation | logistics | verdict
  deriving DecidableEq

namespace Stage

/-- All stages in the order in which they run. -/
def order : List Stage :=
  [.damage, .pricing, .safety, .warranty, .returns, .negotiation, .logistics, .verdict]

/-- The name of a stage. -/
def label : Stage → String
  | .damage => "DamageClassifier"
  | .pricing => "PricingEngine"
  | .safety => "SafetyGate"
  | .warranty => "WarrantyEvaluator"
  | .returns => "ReturnPolicyFilter"
  | .negotiation => "NegotiationEngine"
  | .logistics => "LogisticsSolver"
  | .verdict => "VerdictCompiler"

/-- The first segment of the identifier of every rule that the stage applies. -/
def ruleSegment : Stage → String
  | .damage => "DAMAGE"
  | .pricing => "PRICING"
  | .safety => "SAFETY"
  | .warranty => "WARRANTY"
  | .returns => "RETURN"
  | .negotiation => "NEGOTIATION"
  | .logistics => "LOGISTICS"
  | .verdict => "VERDICT"

end Stage

instance : Vocabulary Stage where
  all := Stage.order
  word := Stage.label
  mem_all a := by cases a <;> decide
  word_inj a b := by cases a <;> cases b <;> decide

/-! ## Rules -/

/-- Whether a rule is still applied. A rule whose meaning changes is published anew, and the old one keeps
its entry. -/
inductive RuleStatus where
  | active
  | deprecated (supersededBy : String)
  deriving DecidableEq

/-- A published rule. -/
structure Rule where
  id : String
  severity : Severity
  stage : Stage
  description : String
  status : RuleStatus
  deriving DecidableEq

/-! ## Findings -/

/-- One application of a rule. -/
structure Finding where
  ruleId : String
  severity : Severity
  passed : Bool
  message : String
  inputsUsed : List String
  outputsAffected : List String
  deriving DecidableEq

/-- The finding that a rule makes. -/
def Rule.finding (rule : Rule) (passed : Bool) (message : String)
    (inputsUsed outputsAffected : List String) : Finding :=
  { ruleId := rule.id
    severity := rule.severity
    passed
    message
    inputsUsed
    outputsAffected }

namespace Finding

/-- A failed blocker ends the evaluation of a deal, or at least its chances. -/
def isFailedBlocker (f : Finding) : Bool :=
  f.severity = .blocker && !f.passed

/-- A failed warning counts against a deal. -/
def isFailedWarning (f : Finding) : Bool :=
  f.severity = .warning && !f.passed

/-- Does the finding weigh in a verdict? -/
def isFailure (f : Finding) : Bool :=
  f.severity ≠ .info && !f.passed

/-- The identifier up to its first dot, or all of it. -/
def segment (f : Finding) : String :=
  String.ofList (f.ruleId.toList.takeWhile (· ≠ '.'))

end Finding

/-! ## What a stage returns -/

/-- The result of a stage together with the findings that it rests on. -/
structure Assessed (α : Type) where
  result : α
  findings : List Finding

end Appraisal
