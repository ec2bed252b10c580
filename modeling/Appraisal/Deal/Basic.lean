/-
A deal: the facts about one scratch-and-dent appliance that somebody considers buying.

A deal is what the buyer found out, in eight parts, the last of which may be missing because nobody has
looked at the appliance yet. Nothing in it is judged. Prices and the fee are doubles, exactly as they were
written; they may be negative or absurd, and whether a deal is fit to be evaluated at all is decided
elsewhere (`Appraisal.Admission`).
-/
import Appraisal.Deal.Kinds

set_option autoImplicit false

namespace Appraisal

/-- The appliance and its two prices: new, and as offered. -/
structure Appliance where
  kind : ApplianceKind
  brand : String
  model : String
  retailPrice : Float
  askingPrice : Float

/-- The damage that was seen. -/
structure Damage where
  spots : Selection Spot
  severity : DamageSeverity
  marks : Selection Mark

/-- The seller, and how long the appliance has been standing there, if that is known. -/
structure Retailer where
  kind : RetailerKind
  inventoryAgeDays : Option UInt32

/-- The warranties that come with the appliance. -/
structure Warranty where
  manufacturer : Coverage
  retailerMonths : UInt32
  laborIncluded : Bool
  partsIncluded : Bool
  extendedAvailable : Bool

/-- The terms on which the appliance can be brought back. -/
structure ReturnPolicy where
  windowDays : UInt32
  restockingFeePercent : Float
  finalSale : Bool

/-- Where the appliance will stand, and which of its sides will be seen there. -/
structure Installation where
  kind : InstallationKind
  visibleSides : Selection Side

/-- The person who buys. -/
structure Buyer where
  purpose : Purpose
  riskTolerance : RiskTolerance
  priceFlexibility : PriceFlexibility

/-- What a look at the appliance showed. Every flag but `powersOn` marks a problem. -/
structure Inspection where
  rustPresent : Bool
  waterStaining : Bool
  cordDamaged : Bool
  odorPresent : Bool
  missingParts : Bool
  priorRepairs : Bool
  unusualSounds : Bool
  powersOn : Bool

/-- Everything that is known about a prospective purchase. -/
structure Deal where
  appliance : Appliance
  damage : Damage
  retailer : Retailer
  warranty : Warranty
  returnPolicy : ReturnPolicy
  installation : Installation
  buyer : Buyer
  inspection : Option Inspection

end Appraisal
