/-
The verdict: what to do, how surely, and why.

A verdict counts two kinds of finding, the failed blockers and the failed warnings, and looks at nothing
else. One failed blocker is enough to walk away. Without one, the warnings decide: as many as the buyer's
tolerance allows mean to skip the deal, fewer mean caution, none means to go ahead.

There are two ways to a verdict. The usual one aggregates all findings at the end. When an evaluation
stops at a failed blocker, the verdict is forced by that finding.

Counts are words of thirty-two bits, so a list of more findings than that would be counted modulo `2 ^ 32`.
-/
import Appraisal.Rule.Catalog
import Appraisal.Rule.Thresholds

set_option autoImplicit false

namespace Appraisal

/-- What the buyer should do. -/
inductive Recommendation where
  | walkAway | skip | proceedWithCaution | proceed
  deriving DecidableEq

instance : Vocabulary Recommendation where
  all := [.walkAway, .skip, .proceedWithCaution, .proceed]
  word
    | .walkAway => "WALK_AWAY"
    | .skip => "SKIP"
    | .proceedWithCaution => "PROCEED_WITH_CAUTION"
    | .proceed => "PROCEED"
  mem_all a := by cases a <;> decide
  word_inj a b := by cases a <;> cases b <;> decide

/-- How sure a recommendation is. -/
inductive Confidence where
  | high | medium | low
  deriving DecidableEq

instance : Vocabulary Confidence where
  all := [.high, .medium, .low]
  word
    | .high => "high"
    | .medium => "medium"
    | .low => "low"
  mem_all a := by cases a <;> decide
  word_inj a b := by cases a <;> cases b <;> decide

/-- The outcome of an evaluation. -/
structure Verdict where
  recommendation : Recommendation
  confidence : Confidence
  summary : String
  failedBlockers : UInt32
  failedWarnings : UInt32
  skipThreshold : UInt32
  forcedByHalt : Bool
  deriving DecidableEq

namespace Verdict

/-! ## Deciding -/

/-- The counts from which on a recommendation changes. -/
structure Limits where
  blockers : UInt32
  skip : UInt32
  caution : UInt32

/-- The limits of a buyer with the given tolerance. -/
def Limits.of (tolerance : RiskTolerance) : Limits where
  blockers := Threshold.blockers
  skip := tolerance.skipThreshold
  caution := Threshold.cautionWarnings

/-- The recommendation for so many failed blockers and warnings. -/
def recommend (failedBlockers failedWarnings : UInt32) (limits : Limits) : Recommendation :=
  if failedBlockers ≥ limits.blockers then .walkAway
  else if failedWarnings ≥ limits.skip then .skip
  else if failedWarnings ≥ limits.caution then .proceedWithCaution
  else .proceed

/-- The confidence of a recommendation that rests on so many failed warnings. -/
def confidenceOf (recommendation : Recommendation) (failedWarnings : UInt32) : Confidence :=
  match recommendation with
  | .walkAway | .proceed => .high
  | .skip | .proceedWithCaution => if failedWarnings = 1 then .medium else .low

/-! ## Counting -/

/-- The failed blockers among findings. -/
def blockersIn (findings : List Finding) : List Finding :=
  findings.filter Finding.isFailedBlocker

/-- The failed warnings among findings. -/
def warningsIn (findings : List Finding) : List Finding :=
  findings.filter Finding.isFailedWarning

/-- The length of a list in thirty-two bits. -/
def count (findings : List Finding) : UInt32 :=
  UInt32.ofNat findings.length

/-! ## Wording -/

/-- Why to walk away. -/
def walkAwaySummary : Option Finding → String
  | some blocker => "Walk away: " ++ blocker.message
  | none => "Walk away: a blocking issue was found"

/-- The recommendation and its reasons. -/
def summarize (recommendation : Recommendation) (blocker : Option Finding)
    (warnings : List Finding) : String :=
  let reasons := "; ".intercalate (warnings.map Finding.message)
  match recommendation with
  | .walkAway => walkAwaySummary blocker
  | .skip => "Skip this deal: " ++ reasons
  | .proceedWithCaution => "Proceed with caution: " ++ reasons
  | .proceed => "Proceed: no blocking issues or warnings were found"

/-- The recommendation and the counts that led to it. -/
def recommendationMessage (recommendation : Recommendation)
    (failedBlockers failedWarnings : UInt32) (tolerance : RiskTolerance) : String :=
  Vocabulary.word recommendation ++ " from " ++ toString failedBlockers.toNat ++ " blocker(s) and "
    ++ toString failedWarnings.toNat ++ " warning(s) at " ++ Vocabulary.word tolerance
    ++ " risk tolerance (skip at " ++ toString tolerance.skipThreshold.toNat ++ ")"

/-! ## The two ways to a verdict -/

/-- The verdict on findings, for a buyer of the given tolerance. -/
def assess (findings : List Finding) (tolerance : RiskTolerance) : Assessed Verdict :=
  let blockers := blockersIn findings
  let warnings := warningsIn findings
  let recommendation := recommend (count blockers) (count warnings) (.of tolerance)
  { result :=
      { recommendation
        confidence := confidenceOf recommendation (count warnings)
        summary := summarize recommendation blockers.head? warnings
        failedBlockers := count blockers
        failedWarnings := count warnings
        skipThreshold := tolerance.skipThreshold
        forcedByHalt := false }
    findings := [
      Rule.recommendation.finding true
        (recommendationMessage recommendation (count blockers) (count warnings) tolerance)
        ["buyer.riskTolerance"] ["verdict.recommendation", "verdict.confidence"]] }

/-- The verdict when an evaluation stops at a failed blocker, with the findings made so far. -/
def forced (blocker : Finding) (findings : List Finding) (tolerance : RiskTolerance) : Verdict where
  recommendation := .walkAway
  confidence := .high
  summary := walkAwaySummary (some blocker)
  failedBlockers := count (blockersIn findings)
  failedWarnings := count (warningsIn findings)
  skipThreshold := tolerance.skipThreshold
  forcedByHalt := true

end Verdict

end Appraisal
