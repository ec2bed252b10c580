/-
The ledger of an evaluation: the findings of the stages that ran, in the order in which they were made.

A stage is recorded with all of its findings at once, also when it has none. The ledger remembers which
stretch of the findings belongs to which stage, and that is how it can be asked whether a particular stage
made a finding that ends the evaluation.
-/
import Appraisal.Rule.Basic

set_option autoImplicit false

namespace Appraisal

/-- The stretch of a ledger that belongs to a stage: from position `first` up to but not including `last`. -/
structure Span where
  stage : Stage
  first : Nat
  last : Nat
  deriving DecidableEq

/-- The findings made so far, and the stages that made them. -/
structure Ledger where
  findings : List Finding
  spans : List Span

namespace Ledger

/-- The ledger before the first stage. -/
def empty : Ledger :=
  ⟨[], []⟩

/-- Adds a stage with its findings. -/
def record (ledger : Ledger) (stage : Stage) (findings : List Finding) : Ledger where
  findings := ledger.findings ++ findings
  spans := ledger.spans ++
    [⟨stage, ledger.findings.length, ledger.findings.length + findings.length⟩]

/-- The findings in a span. -/
def slice (ledger : Ledger) (span : Span) : List Finding :=
  (ledger.findings.drop span.first).take (span.last - span.first)

/-- The span of the first record of a stage. -/
def span? (ledger : Ledger) (stage : Stage) : Option Span :=
  ledger.spans.find? (·.stage = stage)

/-- The first failed blocker among the findings of a stage. -/
def haltingBlocker? (ledger : Ledger) (stage : Stage) : Option Finding :=
  (ledger.span? stage).bind fun span => (ledger.slice span).find? Finding.isFailedBlocker

/-- The stages that were recorded, in order. -/
def stages (ledger : Ledger) : List Stage :=
  ledger.spans.map Span.stage

end Ledger

end Appraisal
