/-
What a finding depends on, against what it says that it looked at.

Every finding lists the paths of the facts behind it: facts of the deal, and results of earlier stages that
stand in the evaluation itself. If the list is complete, two evaluations that agree on it agree on the
finding, whatever else is different about them.

It is complete for all rules but one. The rating of the terms of return lists the terms and not the
warranties, and yet a final sale without any warranty is rated lower than one with a warranty. For two
evaluations that agree on the listed facts this is the one thing that can still tell the findings apart.

The proof goes stage by stage. Each stage is taken by itself first, as a function of the facts that its
rules may list, and the facts are read out of the written forms at the end.
-/
import Mathlib.Data.List.Zip
import Appraisal.Evaluation.Format
import Appraisal.Proofs.DealText
import Appraisal.Proofs.Gates
import Appraisal.Proofs.Published
import Appraisal.Samples

set_option autoImplicit false

namespace Appraisal

open Json

/-! ## Findings of one rule -/

@[simp] theorem Rule.inputsUsed_finding (rule : Rule) (passed : Bool) (message : String)
    (inputs outputs : List String) : (rule.finding passed message inputs outputs).inputsUsed = inputs :=
  rfl

/-- Of two lists that make the same rules in the same order, findings of one rule stand at one place. -/
theorem Finding.mem_zip_of_ruleId {fs gs : List Finding} {f g : Finding} {ids : List String}
    (hf : f ∈ fs) (hg : g ∈ gs) (hrule : f.ruleId = g.ruleId) (hfs : fs.map ruleId = ids)
    (hgs : gs.map ruleId = ids) (hnodup : ids.Nodup) : (f, g) ∈ fs.zip gs := by
  induction fs generalizing gs ids with
  | nil => exact absurd hf List.not_mem_nil
  | cons first fs ih =>
      cases gs with
      | nil => exact absurd hg List.not_mem_nil
      | cons second gs =>
          rw [← hfs, List.map_cons] at hgs hnodup
          obtain ⟨hfirst, hrest⟩ := List.cons.inj hgs
          obtain ⟨hfresh, hdistinct⟩ := List.nodup_cons.mp hnodup
          rw [List.zip_cons_cons, List.mem_cons]
          rcases List.mem_cons.mp hf with rfl | hf <;> rcases List.mem_cons.mp hg with rfl | hg
          · exact Or.inl rfl
          · -- the rule of the first one would occur again
            have hagain : g.ruleId ∈ fs.map ruleId := hrest ▸ List.mem_map_of_mem hg
            exact absurd (hrule ▸ hagain) hfresh
          · have hagain : f.ruleId ∈ fs.map ruleId := List.mem_map_of_mem hf
            exact absurd (hfirst ▸ hrule ▸ hagain) hfresh
          · exact Or.inr (ih hf hg rfl hrest hdistinct)

/-! ## The stages by themselves -/

/-- The text about the window depends on nothing else. -/
theorem ReturnPolicy.windowText_congr {p p' : ReturnPolicy} (h : p.windowDays = p'.windowDays) :
    p.windowText = p'.windowText := by
  unfold windowText
  rw [h]

/-- The text about the fee depends on nothing else. -/
theorem ReturnPolicy.feeText_congr {p p' : ReturnPolicy}
    (h : p.restockingFeePercent = p'.restockingFeePercent) : p.feeText = p'.feeText := by
  unfold feeText
  rw [h]

/-- A rating of a final sale tells whether there is a warranty, and no other rating does. -/
theorem ReturnPolicy.rating_inj (policy : ReturnPolicy) (given given' : Bool) :
    policy.rating given = policy.rating given' ↔ (policy.finalSale = true → given = given') := by
  cases hsale : policy.finalSale with
  | false => simp [rating, hsale]
  | true => cases given <;> cases given' <;> simp [rating, hsale]

/-- The finding about a rating names it. -/
theorem Recourse.ratingFinding_inj {rating rating' : ReturnRating} :
    ratingFinding rating = ratingFinding rating' ↔ rating = rating' := by
  refine ⟨fun h => ?_, fun h => h ▸ rfl⟩
  have hmessage := congrArg Finding.message h
  simp only [ratingFinding, Rule.finding] at hmessage
  exact Vocabulary.word_inj _ _ (by simpa using hmessage)

section Stages

variable {f g : Finding}

/-- The damage stage. -/
theorem Visibility.finding_eq {d d' : Damage} {i i' : Installation} (hf : f ∈ (assess d i).findings)
    (hg : g ∈ (assess d' i').findings) (hrule : f.ruleId = g.ruleId)
    (hspots : "damage.locations" ∈ f.inputsUsed → d.spots = d'.spots)
    (hseverity : "damage.severity" ∈ f.inputsUsed → d.severity = d'.severity)
    (hsides : "installation.visibleSides" ∈ f.inputsUsed → i.visibleSides = i'.visibleSides) :
    f = g := by
  -- a stage has its rules in one order and none twice, so findings of one rule stand at one place
  have hpair := Finding.mem_zip_of_ruleId hf hg hrule (map_ruleId_assess d i) (map_ruleId_assess d' i')
    (Stage.nodup_ruleIds _)
  simp only [assess, List.zip_cons_cons, List.zip_nil_left, List.mem_cons, List.not_mem_nil, or_false,
    Prod.mk.injEq] at hpair
  rcases hpair with ⟨rfl, rfl⟩ | ⟨rfl, rfl⟩
  · have hspots := hspots (by simp)
    have hseverity := hseverity (by simp)
    simp only [tierMessage, tierOf, located, hspots, hseverity]
  · have hspots := hspots (by simp)
    have hsides := hsides (by simp)
    have htier : tierOf d = tierOf d' := by
      simp only [tierOf, hspots]
    have hfaces : faces i = faces i' := by
      funext spot
      simp only [faces, hsides]
    have hexposed : exposed d i = exposed d' i' := by
      simp only [exposed, hspots, hfaces]
    have hseen : isSeen d i = isSeen d' i' := by
      simp only [isSeen, htier, hexposed]
    simp only [exposureMessage, hseen, hexposed]

/-- The pricing stage. -/
theorem Price.finding_eq {a a' : Appliance} {t t' : DamageTier} (hf : f ∈ (assess a t).findings)
    (hg : g ∈ (assess a' t').findings) (hrule : f.ruleId = g.ruleId)
    (hretail : "appliance.retailPrice" ∈ f.inputsUsed → a.retailPrice = a'.retailPrice)
    (hasking : "appliance.askingPrice" ∈ f.inputsUsed → a.askingPrice = a'.askingPrice)
    (hpercent : "financial.discountPercent" ∈ f.inputsUsed →
      (assess a t).result.discountPercent = (assess a' t').result.discountPercent)
    (htier : "damageAssessment.tier" ∈ f.inputsUsed → t = t') : f = g := by
  have hpair := Finding.mem_zip_of_ruleId hf hg hrule (map_ruleId_assess a t) (map_ruleId_assess a' t')
    (Stage.nodup_ruleIds _)
  simp only [assess, List.zip_cons_cons, List.zip_nil_left, List.mem_cons, List.not_mem_nil, or_false,
    Prod.mk.injEq] at hpair hpercent
  rcases hpair with ⟨rfl, rfl⟩ | ⟨rfl, rfl⟩ | ⟨rfl, rfl⟩
  · rw [hretail (by simp), hasking (by simp)]
  · rw [hpercent (by simp)]
  · rw [hpercent (by simp), htier (by simp)]

/-- The safety stage, when both appliances were inspected. -/
theorem Condition.finding_eq {i i' : Inspection} (hf : f ∈ (assess (some i)).findings)
    (hg : g ∈ (assess (some i')).findings) (hrule : f.ruleId = g.ruleId)
    (hflags : ∀ check ∈ checks, check.input ∈ f.inputsUsed → check.isFlagged i = check.isFlagged i')
    (hpower : "inspection.powersOn" ∈ f.inputsUsed → i.powersOn = i'.powersOn) : f = g := by
  have hpair := Finding.mem_zip_of_ruleId hf hg hrule (map_ruleId_assess_some i)
    (map_ruleId_assess_some i') (Stage.nodup_ruleIds _)
  rw [assess, assess, List.zip_append (by simp only [List.length_map]), List.mem_append, List.zip_map',
    List.mem_map] at hpair
  rcases hpair with ⟨check, hcheck, hpair⟩ | hpair
  · obtain ⟨rfl, rfl⟩ := Prod.mk.inj hpair
    have hflag := hflags check hcheck (by simp [Check.finding])
    simp only [Check.finding, Check.message, hflag]
  · obtain ⟨rfl, rfl⟩ := Prod.mk.inj (List.mem_singleton.mp hpair)
    have hpower := hpower (by simp [powerFinding])
    simp only [powerFinding, powerMessage, hpower]

/-- The warranty stage. -/
theorem Protection.finding_eq {w w' : Warranty} {s s' : Float} (hf : f ∈ (assess w s).findings)
    (hg : g ∈ (assess w' s').findings) (hrule : f.ruleId = g.ruleId)
    (hmaker : "warranty.manufacturerCovered" ∈ f.inputsUsed → w.manufacturer = w'.manufacturer)
    (hmonths : "warranty.retailerWarrantyMonths" ∈ f.inputsUsed → w.retailerMonths = w'.retailerMonths)
    (hlabor : "warranty.laborIncluded" ∈ f.inputsUsed → w.laborIncluded = w'.laborIncluded)
    (hsavings : "financial.savingsVsNew" ∈ f.inputsUsed → s = s') : f = g := by
  have hpair := Finding.mem_zip_of_ruleId ((findings_assess_sublist w s).subset hf)
    ((findings_assess_sublist w' s').subset hg) hrule (map_ruleId_candidates w s)
    (map_ruleId_candidates w' s') (Stage.nodup_ruleIds _)
  simp only [candidates, List.zip_cons_cons, List.zip_nil_left, List.mem_cons, List.not_mem_nil, or_false,
    Prod.mk.injEq] at hpair
  rcases hpair with ⟨rfl, rfl⟩ | ⟨rfl, rfl⟩ | ⟨rfl, rfl⟩ | ⟨rfl, rfl⟩
  · have hmaker := hmaker (by simp [scoreFinding])
    have hmonths := hmonths (by simp [scoreFinding])
    have hlabor := hlabor (by simp [scoreFinding])
    simp only [scoreFinding, Warranty.score, hmaker, hmonths, hlabor]
  · rw [hsavings (by simp [repairFinding])]
  · rfl
  · rfl

/-- The return stage. The rating of a final sale also says whether there is a warranty. -/
theorem Recourse.finding_eq_iff {p p' : ReturnPolicy} {w w' : Warranty} (hf : f ∈ (assess p w).findings)
    (hg : g ∈ (assess p' w').findings) (hrule : f.ruleId = g.ruleId)
    (hwindow : "returnPolicy.windowDays" ∈ f.inputsUsed → p.windowDays = p'.windowDays)
    (hfee : "returnPolicy.restockingFeePercent" ∈ f.inputsUsed →
      p.restockingFeePercent = p'.restockingFeePercent)
    (hfinal : "returnPolicy.finalSale" ∈ f.inputsUsed → p.finalSale = p'.finalSale) :
    f = g ↔ (f.ruleId = Rule.returnRating.id → p.finalSale = true → w.isGiven = w'.isGiven) := by
  have hpair := Finding.mem_zip_of_ruleId ((findings_assess_sublist p w).subset hf)
    ((findings_assess_sublist p' w').subset hg) hrule (map_ruleId_candidates p w.isGiven)
    (map_ruleId_candidates p' w'.isGiven) (Stage.nodup_ruleIds _)
  simp only [candidates, List.zip_cons_cons, List.zip_nil_left, List.mem_cons, List.not_mem_nil, or_false,
    Prod.mk.injEq] at hpair
  have ne_returnRating : ∀ {rule : Rule} {passed message inputs outputs},
      rule.id ≠ Rule.returnRating.id →
        (rule.finding passed message inputs outputs).ruleId ≠ Rule.returnRating.id := id
  -- the findings in front of the rating are the same, and none of them is a rating
  have hother : f = g → f.ruleId ≠ Rule.returnRating.id →
      (f = g ↔ (f.ruleId = Rule.returnRating.id → p.finalSale = true → w.isGiven = w'.isGiven)) :=
    fun hsame hne => iff_of_true hsame fun hrating => absurd hrating hne
  rcases hpair with ⟨rfl, rfl⟩ | ⟨rfl, rfl⟩ | ⟨rfl, rfl⟩ | ⟨rfl, rfl⟩ | ⟨rfl, rfl⟩
  · exact hother rfl (ne_returnRating (by decide))
  · exact hother rfl (ne_returnRating (by decide))
  · have hwindow := hwindow (by simp [windowFinding])
    have hsame : windowFinding p = windowFinding p' := by
      rw [windowFinding, windowFinding, ReturnPolicy.windowText_congr hwindow]
    exact hother hsame (ne_returnRating (by decide))
  · have hfee := hfee (by simp [feeFinding])
    have hsame : feeFinding p = feeFinding p' := by
      rw [feeFinding, feeFinding, ReturnPolicy.hasTolerableFee, ReturnPolicy.hasTolerableFee, hfee,
        ReturnPolicy.feeText_congr hfee]
    exact hother hsame (ne_returnRating (by decide))
  · have hpolicy : p = p' := by
      have hwindow := hwindow (by simp [ratingFinding])
      have hfee := hfee (by simp [ratingFinding])
      have hfinal := hfinal (by simp [ratingFinding])
      obtain ⟨days, fee, final⟩ := p
      obtain ⟨days', fee', final'⟩ := p'
      simp only at hwindow hfee hfinal
      rw [hwindow, hfee, hfinal]
    rw [← hpolicy, ratingFinding_inj, ReturnPolicy.rating_inj]
    exact ⟨fun h _ => h, fun h => h rfl⟩

/-- The negotiation stage. -/
theorem Bargaining.finding_eq {d d' : Deal} {t t' : DamageTier} {p p' : Price}
    (hf : f ∈ (assess d t p).findings) (hg : g ∈ (assess d' t' p').findings)
    (hrule : f.ruleId = g.ruleId)
    (hkind : "retailer.type" ∈ f.inputsUsed → d.retailer.kind = d'.retailer.kind)
    (hage : "retailer.inventoryAgeDays" ∈ f.inputsUsed →
      d.retailer.inventoryAgeDays = d'.retailer.inventoryAgeDays)
    (htier : "damageAssessment.tier" ∈ f.inputsUsed → t = t')
    (hmeets : "damageAssessment.tier" ∈ f.inputsUsed → "financial.discountPercent" ∈ f.inputsUsed →
      p.meetsExpectation = p'.meetsExpectation)
    (hretail : "appliance.retailPrice" ∈ f.inputsUsed → d.appliance.retailPrice = d'.appliance.retailPrice)
    (hexpected : "financial.expectedDiscountRange" ∈ f.inputsUsed →
      p.expectedDiscount = p'.expectedDiscount) : f = g := by
  have hpair := Finding.mem_zip_of_ruleId hf hg hrule (map_ruleId_assess d t p)
    (map_ruleId_assess d' t' p') (Stage.nodup_ruleIds _)
  simp only [assess, List.zip_cons_cons, List.zip_nil_left, List.mem_cons, List.not_mem_nil, or_false,
    Prod.mk.injEq] at hpair
  rcases hpair with ⟨rfl, rfl⟩ | ⟨rfl, rfl⟩ | ⟨rfl, rfl⟩
  · rw [hkind (by simp)]
  · have hscore : scoreOf d t p = scoreOf d' t' p' := by
      rw [scoreOf, scoreOf, hkind (by simp), hage (by simp), htier (by simp),
        hmeets (by simp) (by simp)]
    rw [hscore, hkind (by simp)]
  · rw [hretail (by simp), hexpected (by simp)]

/-- The logistics stage. -/
theorem Delivery.finding_eq {a a' : Appliance} {i i' : Installation} (hf : f ∈ (assess a i).findings)
    (hg : g ∈ (assess a' i').findings) (hrule : f.ruleId = g.ruleId)
    (hkind : "appliance.type" ∈ f.inputsUsed → a.kind = a'.kind)
    (hplace : "installation.type" ∈ f.inputsUsed → i.kind = i'.kind) : f = g := by
  have hmem : f = methodFinding (methodFor a.kind i.kind).1 (methodFor a.kind i.kind).2
      ∨ f = transportFinding a.kind ∨ f = installationFinding a.kind i.kind := by
    simpa only [assess, List.mem_cons, List.not_mem_nil, or_false] using hf
  -- all three look at the appliance
  have hsame : a.kind = a'.kind := by
    refine hkind ?_
    rcases hmem with rfl | rfl | rfl <;>
      simp only [methodFinding, transportFinding, installationFinding, Rule.inputsUsed_finding,
        List.mem_cons, true_or]
  have hgs := map_ruleId_assess a' i'
  rw [← hsame] at hgs
  have hpair := Finding.mem_zip_of_ruleId hf hg hrule (map_ruleId_assess a i) hgs
    ((Stage.nodup_ruleIds .logistics).sublist (ruleIds_sublist a.kind))
  simp only [assess, List.zip_cons_cons, List.zip_nil_left, List.mem_cons, List.not_mem_nil, or_false,
    Prod.mk.injEq, ← hsame] at hpair
  rcases hpair with ⟨rfl, rfl⟩ | ⟨rfl, rfl⟩ | ⟨rfl, rfl⟩
  · rw [hplace (by simp [methodFinding])]
  · rfl
  · rw [hplace (by simp [installationFinding])]

end Stages

/-! ## Facts by their paths -/

/-- The member of an object with a name. -/
def Json.member? (form : Json) (name : String) : Option Json :=
  match form with
  | .object members => members.lookup name
  | _ => none

/-- The value at a path, with dots between its names. Results of earlier stages are read in the evaluation,
and all other facts in the deal. -/
def Deal.factAt (deal : Deal) (timestamp path : String) : Option Json :=
  let names := (path.toList.splitOn '.').map String.ofList
  let form :=
    if names.head? = some "financial" ∨ names.head? = some "damageAssessment" then
      encode (deal.evaluate timestamp)
    else encode deal
  names.foldlM Json.member? form

/-- Values that are read back have different written forms. -/
theorem ReadsBack.encode_inj {α : Type} [Codec α] {a b : α} (ha : ReadsBack a) (hb : ReadsBack b)
    (h : encode a = encode b) : a = b := by
  have hread := ha (encode b) (h ▸ Rearranged.refl _) .direct
  rw [hb (encode b) (Rearranged.refl _) .direct] at hread
  exact (Except.ok.inj hread).symm

theorem encode_float_inj {x y : Float} (h : encode x = encode y) : x = y :=
  Json.real.inj h

theorem encode_range_inj {r r' : Float × Float} (h : encode r = encode r') : r = r' := by
  obtain ⟨low, high⟩ := r
  obtain ⟨low', high'⟩ := r'
  have hitems : [encode low, encode high] = [encode low', encode high'] := Json.array.inj h
  obtain ⟨hlow, hhigh⟩ := List.cons.inj hitems
  rw [encode_float_inj hlow, encode_float_inj (List.cons.inj hhigh).1]

theorem encode_tier_inj {t t' : DamageTier} (h : encode t = encode t') : t = t' := by
  have hnumber : (t.number : Int) = t'.number := Json.integer.inj h
  cases t <;> cases t' <;> first | rfl | exact absurd hnumber (by decide)

namespace Deal

variable {deal other : Deal} {timestamp timestamp' : String}

/-- What is always written at a path is the same when what is written there is the same. -/
theorem eq_of_factAt {α : Type} [Codec α] {path : String} (read : Deal → α)
    (hread : ∀ deal timestamp, factAt deal timestamp path = some (encode (read deal)))
    (hinj : encode (read deal) = encode (read other) → read deal = read other)
    (h : deal.factAt timestamp path = other.factAt timestamp' path) : read deal = read other := by
  rw [hread, hread] at h
  exact hinj (Option.some.inj h)

theorem factAt_discountPercent (deal : Deal) (timestamp : String) :
    deal.factAt timestamp "financial.discountPercent" = some (encode deal.price.result.discountPercent) := by
  rw [← price_evaluate deal timestamp]
  rfl

theorem factAt_savings (deal : Deal) (timestamp : String) :
    deal.factAt timestamp "financial.savingsVsNew" = some (encode deal.price.result.savings) := by
  rw [← price_evaluate deal timestamp]
  rfl

theorem factAt_expectedDiscount (deal : Deal) (timestamp : String) :
    deal.factAt timestamp "financial.expectedDiscountRange"
      = some (encode deal.price.result.expectedDiscount) := by
  rw [← price_evaluate deal timestamp]
  rfl

theorem factAt_tier (deal : Deal) (timestamp : String) :
    deal.factAt timestamp "damageAssessment.tier" = some (encode deal.visibility.result.tier) := by
  rw [← visibility_evaluate deal timestamp]
  rfl

/-- An age that is not known is left out. -/
theorem factAt_inventoryAge (deal : Deal) (timestamp : String) :
    deal.factAt timestamp "retailer.inventoryAgeDays" = deal.retailer.inventoryAgeDays.map encode := by
  obtain ⟨_, _, ⟨_, age⟩, _⟩ := deal
  cases age <;> rfl

/-- Every check of an inspection lists the path of its flag. -/
theorem factAt_check {inspection : Inspection} (hinspection : deal.inspection = some inspection)
    (timestamp : String) {check : Condition.Check} (hcheck : check ∈ Condition.checks) :
    deal.factAt timestamp check.input = some (encode (check.isFlagged inspection)) := by
  obtain ⟨_, _, _, _, _, _, _, _⟩ := deal
  obtain rfl := hinspection
  simp only [Condition.checks, List.mem_cons, List.not_mem_nil, or_false] at hcheck
  rcases hcheck with rfl | rfl | rfl | rfl | rfl | rfl | rfl <;> rfl

theorem factAt_powersOn {inspection : Inspection} (hinspection : deal.inspection = some inspection)
    (timestamp : String) :
    deal.factAt timestamp "inspection.powersOn" = some (encode inspection.powersOn) := by
  obtain ⟨_, _, _, _, _, _, _, _⟩ := deal
  obtain rfl := hinspection
  rfl

/-! ## What the findings of two evaluations depend on -/

/-- Two evaluations agree on the facts that a finding lists. -/
def AgreeOn (f : Finding) (deal other : Deal) (timestamp timestamp' : String) : Prop :=
  ∀ path ∈ f.inputsUsed, deal.factAt timestamp path = other.factAt timestamp' path

/-- The rating is the last finding of the return stage. -/
theorem ruleId_eq_returnRating {f : Finding} {stage : Stage} (hf : f ∈ deal.findingsAt stage)
    (hrule : f.ruleId = Rule.returnRating.id) : stage = .returns := by
  have hstage := (deal.map_ruleId_findingsAt_sublist stage).subset (List.mem_map_of_mem hf)
  have hreturns : Rule.returnRating.id ∈ Stage.returns.ruleIds := by decide
  exact Stage.eq_of_mem_ruleIds hstage (hrule ▸ hreturns)

section Stages

variable {f g : Finding}

theorem visibility_finding_eq (hf : f ∈ deal.visibility.findings) (hg : g ∈ other.visibility.findings)
    (hrule : f.ruleId = g.ruleId) (hfacts : AgreeOn f deal other timestamp timestamp') : f = g := by
  refine Visibility.finding_eq hf hg hrule ?_ ?_ ?_
  · exact fun h => eq_of_factAt (·.damage.spots) (fun _ _ => rfl)
      ((readsBack_selection _).encode_inj (readsBack_selection _)) (hfacts _ h)
  · exact fun h => eq_of_factAt (·.damage.severity) (fun _ _ => rfl)
      ((readsBack_word _).encode_inj (readsBack_word _)) (hfacts _ h)
  · exact fun h => eq_of_factAt (·.installation.visibleSides) (fun _ _ => rfl)
      ((readsBack_selection _).encode_inj (readsBack_selection _)) (hfacts _ h)

theorem price_finding_eq (hf : f ∈ deal.price.findings) (hg : g ∈ other.price.findings)
    (hrule : f.ruleId = g.ruleId) (hfacts : AgreeOn f deal other timestamp timestamp') : f = g := by
  refine Price.finding_eq hf hg hrule ?_ ?_ ?_ ?_
  · exact fun h => eq_of_factAt (·.appliance.retailPrice) (fun _ _ => rfl) encode_float_inj (hfacts _ h)
  · exact fun h => eq_of_factAt (·.appliance.askingPrice) (fun _ _ => rfl) encode_float_inj (hfacts _ h)
  · exact fun h => eq_of_factAt (·.price.result.discountPercent) factAt_discountPercent encode_float_inj
      (hfacts _ h)
  · exact fun h => eq_of_factAt (·.visibility.result.tier) factAt_tier encode_tier_inj (hfacts _ h)

/-- Without an inspection nothing is found, so both appliances were inspected. -/
theorem condition_finding_eq (hf : f ∈ deal.condition.findings) (hg : g ∈ other.condition.findings)
    (hrule : f.ruleId = g.ruleId) (hfacts : AgreeOn f deal other timestamp timestamp') : f = g := by
  rw [condition] at hf hg
  cases hinspection : deal.inspection with
  | none => exact absurd (hinspection ▸ hf) List.not_mem_nil
  | some inspection =>
      cases hinspection' : other.inspection with
      | none => exact absurd (hinspection' ▸ hg) List.not_mem_nil
      | some inspection' =>
          rw [hinspection] at hf
          rw [hinspection'] at hg
          refine Condition.finding_eq hf hg hrule ?_ ?_
          · intro check hcheck h
            have hfact := hfacts _ h
            rw [factAt_check hinspection _ hcheck, factAt_check hinspection' _ hcheck] at hfact
            exact Json.bool.inj (Option.some.inj hfact)
          · intro h
            have hfact := hfacts _ h
            rw [factAt_powersOn hinspection, factAt_powersOn hinspection'] at hfact
            exact Json.bool.inj (Option.some.inj hfact)

theorem protection_finding_eq (hf : f ∈ deal.protection.findings) (hg : g ∈ other.protection.findings)
    (hrule : f.ruleId = g.ruleId) (hfacts : AgreeOn f deal other timestamp timestamp') : f = g := by
  refine Protection.finding_eq hf hg hrule ?_ ?_ ?_ ?_
  · exact fun h => eq_of_factAt (·.warranty.manufacturer) (fun _ _ => rfl)
      ((readsBack_coverage _).encode_inj (readsBack_coverage _)) (hfacts _ h)
  · exact fun h => eq_of_factAt (·.warranty.retailerMonths) (fun _ _ => rfl)
      ((readsBack_count _).encode_inj (readsBack_count _)) (hfacts _ h)
  · exact fun h => eq_of_factAt (·.warranty.laborIncluded) (fun _ _ => rfl) Json.bool.inj (hfacts _ h)
  · exact fun h => eq_of_factAt (·.price.result.savings) factAt_savings encode_float_inj (hfacts _ h)

/-- Here the listed facts are not all that counts. -/
theorem recourse_finding_eq_iff (hf : f ∈ deal.recourse.findings) (hg : g ∈ other.recourse.findings)
    (hrule : f.ruleId = g.ruleId) (hfacts : AgreeOn f deal other timestamp timestamp') :
    f = g ↔ (f.ruleId = Rule.returnRating.id → deal.returnPolicy.finalSale = true →
      deal.warranty.isGiven = other.warranty.isGiven) := by
  refine Recourse.finding_eq_iff hf hg hrule ?_ ?_ ?_
  · exact fun h => eq_of_factAt (·.returnPolicy.windowDays) (fun _ _ => rfl)
      ((readsBack_count _).encode_inj (readsBack_count _)) (hfacts _ h)
  · exact fun h => eq_of_factAt (·.returnPolicy.restockingFeePercent) (fun _ _ => rfl)
      encode_float_inj (hfacts _ h)
  · exact fun h => eq_of_factAt (·.returnPolicy.finalSale) (fun _ _ => rfl) Json.bool.inj (hfacts _ h)

/-- That the price meets what is expected is no fact by itself: it follows from the discount and the tier. -/
theorem bargaining_finding_eq (hf : f ∈ deal.bargaining.findings) (hg : g ∈ other.bargaining.findings)
    (hrule : f.ruleId = g.ruleId) (hfacts : AgreeOn f deal other timestamp timestamp') : f = g := by
  have htier : "damageAssessment.tier" ∈ f.inputsUsed →
      deal.visibility.result.tier = other.visibility.result.tier :=
    fun h => eq_of_factAt (·.visibility.result.tier) factAt_tier encode_tier_inj (hfacts _ h)
  refine Bargaining.finding_eq hf hg hrule ?_ ?_ htier ?_ ?_ ?_
  · exact fun h => eq_of_factAt (·.retailer.kind) (fun _ _ => rfl)
      ((readsBack_word _).encode_inj (readsBack_word _)) (hfacts _ h)
  · intro h
    have hfact := hfacts _ h
    rw [factAt_inventoryAge, factAt_inventoryAge] at hfact
    exact Option.map_injective (fun a b => (readsBack_count a).encode_inj (readsBack_count b)) hfact
  · intro h hpath
    have hpercent : deal.price.result.discountPercent = other.price.result.discountPercent :=
      eq_of_factAt (·.price.result.discountPercent) factAt_discountPercent encode_float_inj (hfacts _ hpath)
    show decide (deal.price.result.discountPercent ≥ deal.visibility.result.tier.expectedDiscount.1)
      = decide (other.price.result.discountPercent ≥ other.visibility.result.tier.expectedDiscount.1)
    rw [hpercent, htier h]
  · exact fun h => eq_of_factAt (·.appliance.retailPrice) (fun _ _ => rfl) encode_float_inj (hfacts _ h)
  · exact fun h => eq_of_factAt (·.price.result.expectedDiscount) factAt_expectedDiscount encode_range_inj
      (hfacts _ h)

theorem delivery_finding_eq (hf : f ∈ deal.delivery.findings) (hg : g ∈ other.delivery.findings)
    (hrule : f.ruleId = g.ruleId) (hfacts : AgreeOn f deal other timestamp timestamp') : f = g := by
  refine Delivery.finding_eq hf hg hrule ?_ ?_
  · exact fun h => eq_of_factAt (·.appliance.kind) (fun _ _ => rfl)
      ((readsBack_word _).encode_inj (readsBack_word _)) (hfacts _ h)
  · exact fun h => eq_of_factAt (·.installation.kind) (fun _ _ => rfl)
      ((readsBack_word _).encode_inj (readsBack_word _)) (hfacts _ h)

end Stages

/-- **What a finding depends on.** Two evaluations that find something with one rule, and agree on every fact
that the finding lists, find the same, with one exception: the ratings of a final sale are the same only if
there is a warranty in both of them or in neither. The rule that aggregates all others is left out. -/
theorem finding_eq_iff_of_agreeOn {deal other : Deal} {timestamp timestamp' : String} {f g : Finding}
    (hf : f ∈ (deal.evaluate timestamp).trace.findings)
    (hg : g ∈ (other.evaluate timestamp').trace.findings) (hrule : f.ruleId = g.ruleId)
    (haggregate : f.ruleId ≠ Rule.recommendation.id)
    (hfacts : AgreeOn f deal other timestamp timestamp') :
    f = g ↔ (f.ruleId = Rule.returnRating.id → deal.returnPolicy.finalSale = true →
      deal.warranty.isGiven = other.warranty.isGiven) := by
  rw [findings_trace_evaluate, findingsOf, List.mem_flatMap] at hf hg
  obtain ⟨stage, _, hf⟩ := hf
  obtain ⟨stage', _, hg⟩ := hg
  obtain rfl := stage_eq_of_ruleId hf hg hrule
  -- outside the return stage there is no rating, and so no exception
  have hplain : stage ≠ .returns → f = g →
      (f = g ↔ (f.ruleId = Rule.returnRating.id → deal.returnPolicy.finalSale = true →
        deal.warranty.isGiven = other.warranty.isGiven)) :=
    fun hstage hsame => iff_of_true hsame fun hrating => absurd (ruleId_eq_returnRating hf hrating) hstage
  cases stage with
  | damage => exact hplain (by decide) (visibility_finding_eq hf hg hrule hfacts)
  | pricing => exact hplain (by decide) (price_finding_eq hf hg hrule hfacts)
  | safety => exact hplain (by decide) (condition_finding_eq hf hg hrule hfacts)
  | warranty => exact hplain (by decide) (protection_finding_eq hf hg hrule hfacts)
  | returns => exact recourse_finding_eq_iff hf hg hrule hfacts
  | negotiation => exact hplain (by decide) (bargaining_finding_eq hf hg hrule hfacts)
  | logistics => exact hplain (by decide) (delivery_finding_eq hf hg hrule hfacts)
  | verdict => exact absurd (congrArg Finding.ruleId (List.mem_singleton.mp hf)) haggregate

/-! ## A rating that depends on more than it lists -/

/-- A deal without a hazard is rated. -/
theorem rating_mem_findings (deal : Deal) (timestamp : String) (hhazard : deal.hasHazard = false) :
    Recourse.ratingFinding (deal.returnPolicy.rating deal.warranty.isGiven)
      ∈ (deal.evaluate timestamp).trace.findings := by
  have hcourse : Stage.returns ∈ deal.course := by
    have hsafety := deal.stopAt_safety_eq_none_iff.mpr hhazard
    rw [course, halt?, hsafety]
    cases deal.stopAt .returns with
    | none => exact (by decide : Stage.returns ∈ Stage.order)
    | some blocker => exact (by decide : Stage.returns ∈ Stage.order.take 5)
  rw [findings_trace_evaluate, findingsOf, List.mem_flatMap]
  exact ⟨.returns, hcourse, List.mem_append_right _ (List.mem_singleton_self _)⟩

/-- Other warranties change none of the facts that a rating lists. -/
theorem agreeOn_rating (deal : Deal) (warranty : Warranty) (timestamp : String) (rating : ReturnRating) :
    AgreeOn (Recourse.ratingFinding rating) deal { deal with warranty } timestamp timestamp := by
  intro path hpath
  simp only [Recourse.ratingFinding, Rule.inputsUsed_finding, List.mem_cons, List.not_mem_nil,
    or_false] at hpath
  have hread : ∀ other : Deal,
      other.factAt timestamp "returnPolicy.windowDays" = some (encode other.returnPolicy.windowDays)
        ∧ other.factAt timestamp "returnPolicy.restockingFeePercent"
          = some (encode other.returnPolicy.restockingFeePercent)
        ∧ other.factAt timestamp "returnPolicy.finalSale" = some (encode other.returnPolicy.finalSale) :=
    fun _ => ⟨rfl, rfl, rfl⟩
  obtain ⟨hwindow, hfee, hfinal⟩ := hread deal
  obtain ⟨hwindow', hfee', hfinal'⟩ := hread { deal with warranty }
  rcases hpath with rfl | rfl | rfl
  · rw [hwindow, hwindow']
  · rw [hfee, hfee']
  · rw [hfinal, hfinal']

/-- The same final sale with a warranty is rated higher, and no fact that the rating lists is different. -/
theorem finalSaleDryer_rating :
    let dryer := Sample.finalSaleDryer.deal
    let covered := { dryer with warranty := Sample.coveredWarranty 12 true }
    let timestamp := "2025-06-01T12:00:00Z"
    ∃ f ∈ (dryer.evaluate timestamp).trace.findings, ∃ g ∈ (covered.evaluate timestamp).trace.findings,
      f.ruleId = "RETURN.POLICY.RATING_V1" ∧ g.ruleId = f.ruleId
        ∧ AgreeOn f dryer covered timestamp timestamp
        ∧ f.message = "Return policy rates red_flag"
        ∧ g.message = "Return policy rates risky"
        ∧ f ≠ g := by
  intro dryer covered timestamp
  have hf := rating_mem_findings dryer timestamp (by decide)
  have hg := rating_mem_findings covered timestamp (by decide)
  have hfacts := agreeOn_rating dryer (Sample.coveredWarranty 12 true) timestamp
    (dryer.returnPolicy.rating dryer.warranty.isGiven)
  have hsame := finding_eq_iff_of_agreeOn hf hg rfl (by decide) hfacts
  refine ⟨_, hf, _, hg, rfl, rfl, hfacts, by decide, by decide, fun heq => ?_⟩
  exact absurd (hsame.mp heq rfl rfl) (by decide)

end Deal

end Appraisal
