/-
What an inspection says about the condition of the appliance.

Seven things are checked. Five of them are hazards: any one of them ends the evaluation, however good the
price. The other two are warnings. That the appliance does not power on is reported among the warnings but
weighs nothing, since the outlet may be to blame.

Without an inspection nothing is checked and nothing is held against the appliance; the buyer is advised
to have a look.
-/
import Appraisal.Deal.Basic
import Appraisal.Rule.Catalog

set_option autoImplicit false

namespace Appraisal

/-- What was found out about the condition. -/
structure Condition where
  passed : Bool
  inspected : Bool
  blockers : List String
  warnings : List String
  advisory : Option String

namespace Condition

/-- What a buyer without an inspection is told. -/
def inspectionAdvice : String :=
  "No inspection results provided; inspect the unit in person for rust, water staining, cord damage, odors, and missing parts before buying"

/-! ## The checks -/

/-- A check of the inspection: the rule that it applies, the flag that it looks at, and what it says. -/
structure Check where
  rule : Rule
  input : String
  isFlagged : Inspection → Bool
  ifFlagged : String
  ifClear : String

/-- The checks in the order in which they are made, the hazards first. -/
def checks : List Check :=
  [⟨Rule.rust, "inspection.rustPresent", (·.rustPresent),
      "Rust found; corrosion spreads and can compromise seals and wiring",
      "No rust found"⟩,
   ⟨Rule.waterStaining, "inspection.waterStaining", (·.waterStaining),
      "Water staining found; the unit may have flood or leak exposure",
      "No water staining found"⟩,
   ⟨Rule.damagedCord, "inspection.cordDamaged", (·.cordDamaged),
      "Power cord is damaged; shock and fire hazard",
      "Power cord is intact"⟩,
   ⟨Rule.odor, "inspection.odorPresent", (·.odorPresent),
      "Burning, chemical, or mildew odor detected",
      "No unusual odor detected"⟩,
   ⟨Rule.missingParts, "inspection.missingParts", (·.missingParts),
      "Parts are missing; replacements may be costly or unavailable",
      "No missing parts"⟩,
   ⟨Rule.priorRepairs, "inspection.priorRepairs", (·.priorRepairs),
      "Evidence of prior repairs; ask for service records",
      "No evidence of prior repairs"⟩,
   ⟨Rule.unusualSounds, "inspection.unusualSounds", (·.unusualSounds),
      "Unusual sounds during operation; possible motor or bearing wear",
      "Operates without unusual sounds"⟩]

namespace Check

/-- What the check says of an inspection. -/
def message (check : Check) (inspection : Inspection) : String :=
  if check.isFlagged inspection then check.ifFlagged else check.ifClear

/-- The finding of the check. -/
def finding (check : Check) (inspection : Inspection) : Finding :=
  check.rule.finding (!check.isFlagged inspection) (check.message inspection)
    [check.input] ["safetyGate.passed"]

/-- Is the check about a hazard? -/
def isHazard (check : Check) : Bool :=
  check.rule.severity = .blocker

end Check

/-- The hazards that an inspection found, in words. -/
def blockersOf (inspection : Inspection) : List String :=
  (checks.filter fun check => check.isFlagged inspection && check.isHazard).map (·.ifFlagged)

/-- The lesser problems that an inspection found, in words. -/
def warningsOf (inspection : Inspection) : List String :=
  (checks.filter fun check => check.isFlagged inspection && !check.isHazard).map (·.ifFlagged)

/-! ## Power -/

/-- Whether the appliance powers on, in words. -/
def powerMessage (inspection : Inspection) : String :=
  if inspection.powersOn then "Unit powers on"
  else "Unit did not power on during inspection; confirm the outlet and ask for a demonstration"

/-- The finding about power. -/
def powerFinding (inspection : Inspection) : Finding :=
  Rule.powerOn.finding inspection.powersOn (powerMessage inspection)
    ["inspection.powersOn"] ["safetyGate.warnings"]

/-! ## The assessment -/

/-- Assesses the condition of an appliance that may have been inspected. -/
def assess : Option Inspection → Assessed Condition
  | none =>
    { result :=
        { passed := true
          inspected := false
          blockers := []
          warnings := []
          advisory := some inspectionAdvice }
      findings := [] }
  | some inspection =>
    { result :=
        { passed := (blockersOf inspection).isEmpty
          inspected := true
          blockers := blockersOf inspection
          warnings := warningsOf inspection
            ++ (if inspection.powersOn then [] else [powerMessage inspection])
          advisory := none }
      findings := checks.map (·.finding inspection) ++ [powerFinding inspection] }

end Condition

end Appraisal
