/-
The written form of a deal.

A deal is a JSON object with one member a part, and each part is an object with one member a field. A kind
is written as its word, a set of members of a kind as a list. Unknown members are passed over, the order of
members means nothing, and `null` is the same as leaving out for the two parts that may be missing, the
inspection and the age of the inventory. The lists of marks and of visible sides may be left out when they
are empty.

The manufacturer's coverage is the one value with a looser spelling: `true` and `false` are written as such
or as the words yes, no, true, false or unknown, in any case and with blanks around them. It is always
written back in one way.
-/
import Appraisal.Json.Codec
import Appraisal.Text.Blank
import Appraisal.Deal.Basic

set_option autoImplicit false

namespace Appraisal

open Json

/-! ## Coverage and tiers -/

/-- What a coverage may be written as. -/
def Coverage.wanted : String :=
  "true, false, or \"unknown\""

/-- The coverage that a word stands for. -/
def Coverage.ofWord? : String → Option Coverage
  | "true" | "yes" => some .covered
  | "false" | "no" => some .notCovered
  | "unknown" => some .unknown
  | _ => none

/-- Reads a coverage: a Boolean, or a word in any case with any blanks around it. -/
def Coverage.decoder : Decoder Coverage
  | _, .bool true => .ok .covered
  | _, .bool false => .ok .notCovered
  | _, .string (.ok s) =>
    let w := Text.lower (Text.trim s)
    match Coverage.ofWord? w with
    | some c => .ok c
    | none => misfitHere (.wrongValue (.string w) Coverage.wanted)
  | _, node => .error (node.unwanted Coverage.wanted)

instance : Codec Coverage where
  encode
    | .covered => .bool true
    | .notCovered => .bool false
    | .unknown => .string "unknown"
  decode := Coverage.decoder

/-- Reads the number of a tier. -/
def DamageTier.decoder : Decoder DamageTier := fun pass node => do
  let n ← Decoder.natBelow UInt8.size "u8" pass node
  match DamageTier.ofNumber? n with
  | some tier => return tier
  | none => misfitHere (.tierOutOfRange n)

instance : Codec DamageTier where
  encode tier := .nat tier.number
  decode := DamageTier.decoder

/-! ## The parts of a deal -/

instance : Codec Appliance where
  encode a := .object [
    ("type", encode a.kind),
    ("brand", encode a.brand),
    ("model", encode a.model),
    ("retailPrice", encode a.retailPrice),
    ("askingPrice", encode a.askingPrice)]
  decode := record "struct ApplianceInfo"
    ["type", "brand", "model", "retailPrice", "askingPrice"] fun r =>
      Appliance.mk <$> r.get "type" <*> r.get "brand" <*> r.get "model" <*> r.get "retailPrice"
        <*> r.get "askingPrice"

instance : Codec Damage where
  encode d := .object [
    ("locations", encode d.spots),
    ("severity", encode d.severity),
    ("types", encode d.marks)]
  decode := record "struct DamageInfo" ["locations", "severity", "types"] fun r =>
    Damage.mk <$> r.get "locations" <*> r.get "severity" <*> r.getD "types" (.ofList [])

instance : Codec Retailer where
  encode s := .object <|
    [("type", encode s.kind)] ++ memberIfAny "inventoryAgeDays" encode s.inventoryAgeDays
  decode := record "struct RetailerInfo" ["type", "inventoryAgeDays"] fun r =>
    Retailer.mk <$> r.get "type" <*> r.getD "inventoryAgeDays" none

instance : Codec Warranty where
  encode w := .object [
    ("manufacturerCovered", encode w.manufacturer),
    ("retailerWarrantyMonths", encode w.retailerMonths),
    ("laborIncluded", encode w.laborIncluded),
    ("partsIncluded", encode w.partsIncluded),
    ("extendedAvailable", encode w.extendedAvailable)]
  decode := record "struct WarrantyInfo"
    ["manufacturerCovered", "retailerWarrantyMonths", "laborIncluded", "partsIncluded",
      "extendedAvailable"] fun r =>
      Warranty.mk <$> r.get "manufacturerCovered" <*> r.get "retailerWarrantyMonths"
        <*> r.get "laborIncluded" <*> r.get "partsIncluded" <*> r.get "extendedAvailable"

instance : Codec ReturnPolicy where
  encode p := .object [
    ("windowDays", encode p.windowDays),
    ("restockingFeePercent", encode p.restockingFeePercent),
    ("finalSale", encode p.finalSale)]
  decode := record "struct ReturnPolicyInfo" ["windowDays", "restockingFeePercent", "finalSale"]
    fun r =>
      ReturnPolicy.mk <$> r.get "windowDays" <*> r.get "restockingFeePercent" <*> r.get "finalSale"

instance : Codec Installation where
  encode i := .object [
    ("type", encode i.kind),
    ("visibleSides", encode i.visibleSides)]
  decode := record "struct InstallationInfo" ["type", "visibleSides"] fun r =>
    Installation.mk <$> r.get "type" <*> r.getD "visibleSides" (.ofList [])

instance : Codec Buyer where
  encode b := .object [
    ("purpose", encode b.purpose),
    ("riskTolerance", encode b.riskTolerance),
    ("priceFlexibility", encode b.priceFlexibility)]
  decode := record "struct BuyerContext" ["purpose", "riskTolerance", "priceFlexibility"] fun r =>
    Buyer.mk <$> r.get "purpose" <*> r.get "riskTolerance" <*> r.get "priceFlexibility"

instance : Codec Inspection where
  encode i := .object [
    ("rustPresent", encode i.rustPresent),
    ("waterStaining", encode i.waterStaining),
    ("cordDamaged", encode i.cordDamaged),
    ("odorPresent", encode i.odorPresent),
    ("missingParts", encode i.missingParts),
    ("priorRepairs", encode i.priorRepairs),
    ("unusualSounds", encode i.unusualSounds),
    ("powersOn", encode i.powersOn)]
  decode := record "struct InspectionResults"
    ["rustPresent", "waterStaining", "cordDamaged", "odorPresent", "missingParts", "priorRepairs",
      "unusualSounds", "powersOn"] fun r =>
      Inspection.mk <$> r.get "rustPresent" <*> r.get "waterStaining" <*> r.get "cordDamaged"
        <*> r.get "odorPresent" <*> r.get "missingParts" <*> r.get "priorRepairs"
        <*> r.get "unusualSounds" <*> r.get "powersOn"

/-! ## The deal -/

instance : Codec Deal where
  encode d := .object <| [
    ("appliance", encode d.appliance),
    ("damage", encode d.damage),
    ("retailer", encode d.retailer),
    ("warranty", encode d.warranty),
    ("returnPolicy", encode d.returnPolicy),
    ("installation", encode d.installation),
    ("buyer", encode d.buyer)] ++ memberIfAny "inspection" encode d.inspection
  decode := record "struct BuyerInput"
    ["appliance", "damage", "retailer", "warranty", "returnPolicy", "installation", "buyer",
      "inspection"] fun r =>
      Deal.mk <$> r.get "appliance" <*> r.get "damage" <*> r.get "retailer" <*> r.get "warranty"
        <*> r.get "returnPolicy" <*> r.get "installation" <*> r.get "buyer"
        <*> r.getD "inspection" none

end Appraisal
