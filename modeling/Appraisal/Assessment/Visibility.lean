/-
How visible the damage will be, and whether that matters where the appliance is going to stand.

Damage is put into one of three tiers by where it sits, whatever its severity. Damage that is confined to
concealed spots is hidden, and no damage at all is hidden too; damage on a spot that everybody looks at is
prominent; all else is partly visible. Independently of the tier, a damaged spot is exposed if it faces a
side that the installation leaves open.

Exposed damage speaks against the installation unless it is hidden. The two can disagree, because the top
is a concealed spot and yet faces a side.
-/
import Appraisal.Deal.Basic
import Appraisal.Rule.Catalog

set_option autoImplicit false

namespace Appraisal

/-- What was found out about the damage. -/
structure Visibility where
  tier : DamageTier
  tierLabel : String
  exposedSpots : List Spot
  acceptable : Bool

namespace Visibility

/-! ## Tier and exposure -/

/-- The tier of the damage. -/
def tierOf (damage : Damage) : DamageTier :=
  if damage.spots.toList.all Spot.isHidden then .hidden
  else if damage.spots.toList.any Spot.isProminent then .prominent
  else .partlyVisible

/-- Does the spot face a side that the installation leaves open? -/
def faces (installation : Installation) (spot : Spot) : Bool :=
  match spot.side? with
  | some side => installation.visibleSides.holds side
  | none => false

/-- The damaged spots that face an open side. -/
def exposed (damage : Damage) (installation : Installation) : List Spot :=
  damage.spots.toList.filter (faces installation)

/-- Will the damage be seen once the appliance stands in its place? -/
def isSeen (damage : Damage) (installation : Installation) : Bool :=
  !(exposed damage installation).isEmpty && tierOf damage ≠ .hidden

/-! ## Wording -/

/-- Spots by their words. -/
def spotList (spots : List Spot) : String :=
  ", ".intercalate (spots.map Vocabulary.word)

/-- Where the damage is, or that there is none. -/
def located (damage : Damage) : String :=
  if damage.spots.toList.isEmpty then "no damage locations recorded" else spotList damage.spots.toList

/-- The tier, and what it was derived from. -/
def tierMessage (damage : Damage) : String :=
  let tier := tierOf damage
  "Tier " ++ toString tier.number ++ " (" ++ tier.label ++ "): "
    ++ Vocabulary.word damage.severity ++ " damage at " ++ located damage

/-- What the installation makes of the damage. -/
def exposureMessage (damage : Damage) (installation : Installation) : String :=
  if isSeen damage installation then
    "Damage at " ++ spotList (exposed damage installation) ++ " will be visible once installed"
  else if (exposed damage installation).isEmpty then
    "Damage is not on a side left exposed by the installation"
  else "Damage faces an exposed side but sits in a hidden zone"

/-! ## The assessment -/

/-- Assesses the damage for an installation. -/
def assess (damage : Damage) (installation : Installation) : Assessed Visibility where
  result :=
    { tier := tierOf damage
      tierLabel := (tierOf damage).label
      exposedSpots := exposed damage installation
      acceptable := !isSeen damage installation }
  findings := [
    Rule.damageTier.finding true (tierMessage damage)
      ["damage.locations", "damage.severity"] ["damageAssessment.tier"],
    Rule.damageExposure.finding (!isSeen damage installation) (exposureMessage damage installation)
      ["damage.locations", "installation.visibleSides"]
      ["damageAssessment.acceptableForInstallation"]]

end Visibility

end Appraisal
