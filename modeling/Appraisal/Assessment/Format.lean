/-
The written form of the assessments.

Each of them is an object with one member a field. They are read as well as written, because an
evaluation that was kept somewhere is taken in again; what is read is believed, and a label or a count
that does not fit the rest is kept as it is.
-/
import Appraisal.Assessment.Bargaining
import Appraisal.Assessment.Condition
import Appraisal.Assessment.Delivery
import Appraisal.Assessment.Price
import Appraisal.Assessment.Protection
import Appraisal.Assessment.Recourse
import Appraisal.Assessment.Verdict
import Appraisal.Assessment.Visibility
import Appraisal.Deal.Format

set_option autoImplicit false

namespace Appraisal

open Json

/-! ## What was found out about the appliance -/

instance : Codec Visibility where
  encode v := .object [
    ("tier", encode v.tier),
    ("tierLabel", encode v.tierLabel),
    ("exposedLocations", encode v.exposedSpots),
    ("acceptableForInstallation", encode v.acceptable)]
  decode := record "struct DamageAssessment"
    ["tier", "tierLabel", "exposedLocations", "acceptableForInstallation"] fun r =>
      Visibility.mk <$> r.get "tier" <*> r.get "tierLabel" <*> r.get "exposedLocations"
        <*> r.get "acceptableForInstallation"

instance : Codec Condition where
  encode c := .object <| [
    ("passed", encode c.passed),
    ("inspected", encode c.inspected),
    ("blockers", encode c.blockers),
    ("warnings", encode c.warnings)] ++ memberIfAny "advisory" encode c.advisory
  decode := record "struct SafetyGateResult"
    ["passed", "inspected", "blockers", "warnings", "advisory"] fun r =>
      Condition.mk <$> r.get "passed" <*> r.get "inspected" <*> r.get "blockers"
        <*> r.get "warnings" <*> r.getD "advisory" none

/-! ## What was found out about the terms -/

instance : Codec Price where
  encode p := .object [
    ("retailPrice", encode p.retail),
    ("askingPrice", encode p.asking),
    ("discountPercent", encode p.discountPercent),
    ("savingsVsNew", encode p.savings),
    ("discountRating", encode p.rating),
    ("expectedDiscountRange", encode p.expectedDiscount),
    ("fairPriceEstimate", encode p.fairPrice),
    ("meetsTierExpectation", encode p.meetsExpectation)]
  decode := record "struct FinancialAssessment"
    ["retailPrice", "askingPrice", "discountPercent", "savingsVsNew", "discountRating",
      "expectedDiscountRange", "fairPriceEstimate", "meetsTierExpectation"] fun r =>
      Price.mk <$> r.get "retailPrice" <*> r.get "askingPrice" <*> r.get "discountPercent"
        <*> r.get "savingsVsNew" <*> r.get "discountRating" <*> r.get "expectedDiscountRange"
        <*> r.get "fairPriceEstimate" <*> r.get "meetsTierExpectation"

instance : Codec Protection where
  encode p := .object [
    ("score", encode p.score),
    ("riskLevel", encode p.risk),
    ("coverageGaps", encode p.gaps)]
  decode := record "struct WarrantyEvaluation" ["score", "riskLevel", "coverageGaps"] fun r =>
    Protection.mk <$> r.get "score" <*> r.get "riskLevel" <*> r.get "coverageGaps"

instance : Codec Recourse where
  encode p := .object [
    ("rating", encode p.rating),
    ("hasWarranty", encode p.hasWarranty),
    ("concerns", encode p.concerns)]
  decode := record "struct ReturnPolicyAssessment" ["rating", "hasWarranty", "concerns"] fun r =>
    Recourse.mk <$> r.get "rating" <*> r.get "hasWarranty" <*> r.get "concerns"

instance : Codec Bargaining where
  encode b := .object [
    ("possible", encode b.possible),
    ("probability", encode b.odds),
    ("probabilityScore", encode b.score),
    ("suggestedTargetPrice", encode b.targetPrice),
    ("leveragePoints", encode b.leverage),
    ("alternativeAsks", encode b.otherAsks)]
  decode := record "struct NegotiationAssessment"
    ["possible", "probability", "probabilityScore", "suggestedTargetPrice", "leveragePoints",
      "alternativeAsks"] fun r =>
      Bargaining.mk <$> r.get "possible" <*> r.get "probability" <*> r.get "probabilityScore"
        <*> r.get "suggestedTargetPrice" <*> r.get "leveragePoints" <*> r.get "alternativeAsks"

instance : Codec Delivery where
  encode d := .object [
    ("delivery", encode d.method),
    ("deliveryReason", encode d.reason),
    ("transportRequirements", encode d.transport),
    ("installationNotes", encode d.installation)]
  decode := record "struct LogisticsPlan"
    ["delivery", "deliveryReason", "transportRequirements", "installationNotes"] fun r =>
      Delivery.mk <$> r.get "delivery" <*> r.get "deliveryReason" <*> r.get "transportRequirements"
        <*> r.get "installationNotes"

/-! ## The verdict -/

instance : Codec Verdict where
  encode v := .object [
    ("recommendation", encode v.recommendation),
    ("confidence", encode v.confidence),
    ("summary", encode v.summary),
    ("failedBlockers", encode v.failedBlockers),
    ("failedWarnings", encode v.failedWarnings),
    ("skipThreshold", encode v.skipThreshold),
    ("forcedByHalt", encode v.forcedByHalt)]
  decode := record "struct Verdict"
    ["recommendation", "confidence", "summary", "failedBlockers", "failedWarnings",
      "skipThreshold", "forcedByHalt"] fun r =>
      Verdict.mk <$> r.get "recommendation" <*> r.get "confidence" <*> r.get "summary"
        <*> r.get "failedBlockers" <*> r.get "failedWarnings" <*> r.get "skipThreshold"
        <*> r.get "forcedByHalt"

end Appraisal
