/-
Four deals to look at, one for each kind of outcome.

The first is a good one, the second has its points, and the other two are stopped, each at another gate.
-/
import Appraisal.Deal.Basic

set_option autoImplicit false

namespace Appraisal

/-- A deal with a name. -/
structure Sample where
  name : String
  deal : Deal

namespace Sample

/-! ## Parts that the deals share -/

/-- An appliance that stands free, seen from three sides. -/
def freestanding : Installation :=
  ⟨.freestanding, .ofList [.front, .left, .right]⟩

/-- A warranty of the manufacturer and so many months of the retailer's. -/
def coveredWarranty (months : UInt32) (laborIncluded : Bool) : Warranty :=
  ⟨.covered, months, laborIncluded, true, true⟩

/-- Somebody who looks for an appliance to live with. -/
def resident (tolerance : RiskTolerance) : Buyer :=
  ⟨.primaryResidence, tolerance, .flexible⟩

/-- An inspection that found nothing. -/
def cleanInspection : Inspection where
  rustPresent := false
  waterStaining := false
  cordDamaged := false
  odorPresent := false
  missingParts := false
  priorRepairs := false
  unusualSounds := false
  powersOn := true

/-! ## The deals -/

/-- A dent that nobody will see. -/
def dentedRefrigerator : Sample where
  name := "Refrigerator dented on the back at an independent dealer"
  deal :=
    { appliance := ⟨.refrigerator, "Frostline", "FL-2250", 1899.0, 1149.0⟩
      damage := ⟨.ofList [.back], .moderate, .ofList [.dent]⟩
      retailer := ⟨.independent, some 40⟩
      warranty := coveredWarranty 12 true
      returnPolicy := ⟨30, 0.0, false⟩
      installation := freestanding
      buyer := resident .moderate
      inspection := some cleanInspection }

/-- Damage in plain sight, and nobody had a look. -/
def chippedRange : Sample where
  name := "Range with a chipped door at a big-box outlet"
  deal :=
    { appliance := ⟨.range, "Hearthmark", "HM-30G", 1200.0, 900.0⟩
      damage := ⟨.ofList [.frontDoor], .minor, .ofList [.chip]⟩
      retailer := ⟨.bigBox, none⟩
      warranty := coveredWarranty 12 false
      returnPolicy := ⟨14, 15.0, false⟩
      installation := freestanding
      buyer := resident .high
      inspection := none }

/-- A hazard. -/
def stainedWasher : Sample where
  name := "Washer with water staining at a liquidator"
  deal :=
    { appliance := ⟨.washer, "Spinwell", "SW-800", 900.0, 400.0⟩
      damage := ⟨.ofList [.leftSide], .moderate, .ofList [.scratch]⟩
      retailer := ⟨.liquidation, some 95⟩
      warranty := coveredWarranty 3 false
      returnPolicy := ⟨7, 0.0, false⟩
      installation := freestanding
      buyer := resident .moderate
      inspection := some { cleanInspection with waterStaining := true } }

/-- No way back. -/
def finalSaleDryer : Sample where
  name := "Final-sale dryer with no warranty"
  deal :=
    { appliance := ⟨.dryer, "Tumbleaire", "TA-7E", 750.0, 350.0⟩
      damage := ⟨.ofList [.top, .bottom], .minor, .ofList [.scratch]⟩
      retailer := ⟨.outlet, some 20⟩
      warranty := ⟨.notCovered, 0, false, false, false⟩
      returnPolicy := ⟨0, 0.0, true⟩
      installation := ⟨.stacked, .ofList [.front]⟩
      buyer := resident .low
      inspection := some cleanInspection }

/-- All samples in the order in which they are shown. -/
def all : List Sample :=
  [dentedRefrigerator, chippedRange, stainedWasher, finalSaleDryer]

end Sample

end Appraisal
