/-
What becomes of two deals that compare equal.

Deals are compared part by part, and their numbers as doubles are compared. For two deals that are admitted there
is exactly one way to compare equal without being the same deal: a price or the fee is zero in one of them and
minus zero in the other. A minus zero is admitted wherever a zero is, because it is finite and not less than zero.

The minus is written. So two such deals have different canonical texts, are kept apart by whoever knows a deal by
its text or by the hash of it, and are spoken of in different sentences. All other deals that compare equal are
the same deal, with one text, one fingerprint and one evaluation.
-/
import Appraisal.Proofs.Course
import Appraisal.Proofs.DealText
import Appraisal.Proofs.DoubleEquality
import Appraisal.Proofs.FiniteNumbers

set_option autoImplicit false

namespace Appraisal

open Binary64 Json

/-! ## Comparing deals -/

/-- Selections are compared by their lists. -/
instance {α : Type} [Vocabulary α] [DecidableEq α] : DecidableEq (Selection α) := fun s t =>
  decidable_of_iff (s.toList = t.toList)
    ⟨fun h => by rw [← Selection.ofList_toList s, h, Selection.ofList_toList], congrArg _⟩

deriving instance DecidableEq for Damage

deriving instance DecidableEq for Retailer

deriving instance DecidableEq for Warranty

deriving instance DecidableEq for Installation

deriving instance DecidableEq for Buyer

deriving instance DecidableEq for Inspection

instance : BEq Appliance where
  beq a b := a.kind == b.kind && a.brand == b.brand && a.model == b.model
    && a.retailPrice == b.retailPrice && a.askingPrice == b.askingPrice

instance : BEq ReturnPolicy where
  beq p q := p.windowDays == q.windowDays && p.restockingFeePercent == q.restockingFeePercent
    && p.finalSale == q.finalSale

/-- Deals are compared part by part, and their numbers as doubles are: the two zeros are equal. -/
instance : BEq Deal where
  beq d e := d.appliance == e.appliance && d.damage == e.damage && d.retailer == e.retailer
    && d.warranty == e.warranty && d.returnPolicy == e.returnPolicy
    && d.installation == e.installation && d.buyer == e.buyer && d.inspection == e.inspection

namespace Deal

/-- One of the numbers is zero in one of the two deals and minus zero in the other. -/
def SplitByZero (deal other : Deal) : Prop :=
  OppositeZeros deal.appliance.retailPrice other.appliance.retailPrice
    ∨ OppositeZeros deal.appliance.askingPrice other.appliance.askingPrice
    ∨ OppositeZeros deal.returnPolicy.restockingFeePercent other.returnPolicy.restockingFeePercent

/-- Two admitted deals that compare equal are the same deal, or a zero keeps them apart. -/
theorem eq_or_splitByZero_of_beq {deal other : Deal} {timestamp : String}
    (hdeal : (deal.vet timestamp).isOk = true) (hother : (other.vet timestamp).isOk = true)
    (h : (deal == other) = true) : deal = other ∨ deal.SplitByZero other := by
  obtain ⟨hretail, hasking, -, hfee⟩ := numbers_of_vet hdeal
  obtain ⟨hretail', hasking', -, hfee'⟩ := numbers_of_vet hother
  -- everything but the three numbers is the same on both sides
  obtain ⟨⟨kind, brand, model, retail, asking⟩, damage, retailer, warranty, ⟨window, fee, final⟩,
    installation, buyer, inspection⟩ := deal
  obtain ⟨⟨kind', brand', model', retail', asking'⟩, damage', retailer', warranty', ⟨window', fee', final'⟩,
    installation', buyer', inspection'⟩ := other
  have hparts : ((kind == kind' && brand == brand' && model == model' && retail == retail'
      && asking == asking') && damage == damage' && retailer == retailer' && warranty == warranty'
      && (window == window' && fee == fee' && final == final') && installation == installation'
      && buyer == buyer' && inspection == inspection') = true := h
  simp only [Bool.and_eq_true] at hparts
  obtain ⟨⟨⟨⟨⟨⟨⟨⟨⟨⟨⟨hkind, hbrand⟩, hmodel⟩, hretails⟩, haskings⟩, hdamage⟩, hretailer⟩, hwarranty⟩,
    ⟨hwindow, hfees⟩, hfinal⟩, hinstallation⟩, hbuyer⟩, hinspection⟩ := hparts
  obtain rfl := eq_of_beq hkind
  obtain rfl := eq_of_beq hbrand
  obtain rfl := eq_of_beq hmodel
  obtain rfl := eq_of_beq hdamage
  obtain rfl := eq_of_beq hretailer
  obtain rfl := eq_of_beq hwarranty
  obtain rfl := eq_of_beq hwindow
  obtain rfl := eq_of_beq hfinal
  obtain rfl := eq_of_beq hinstallation
  obtain rfl := eq_of_beq hbuyer
  obtain rfl := eq_of_beq hinspection
  rcases eq_or_oppositeZeros_of_beq hretail hretail' hretails with heq | hzeros
  · obtain rfl : retail = retail' := heq
    rcases eq_or_oppositeZeros_of_beq hasking hasking' haskings with heq | hzeros
    · obtain rfl : asking = asking' := heq
      rcases eq_or_oppositeZeros_of_beq hfee hfee' hfees with heq | hzeros
      · obtain rfl : fee = fee' := heq
        exact Or.inl rfl
      · exact Or.inr (Or.inr (Or.inr hzeros))
    · exact Or.inr (Or.inr (Or.inl hzeros))
  · exact Or.inr (Or.inl hzeros)

/-! ## Texts -/

/-- The canonical text of an admitted deal is read as the deal with each of its numbers reread. -/
theorem decodeText_canonicalText_of_vet {deal : Deal} {timestamp : String}
    (hvet : (deal.vet timestamp).isOk = true) :
    decodeText decode deal.canonicalText = .ok (deal.mapNumbers reread) := by
  obtain ⟨hretail, hasking, -, hfee⟩ := numbers_of_vet hvet
  have hnumbers : ∀ x ∈ deal.numbers, Reads decode (encode x) (reread x) := by
    simp only [numbers, List.forall_mem_cons, List.not_mem_nil, false_implies, implies_true, and_true]
    exact ⟨reads_float (decodeText_encode_float hretail), reads_float (decodeText_encode_float hasking),
      reads_float (decodeText_encode_float hfee)⟩
  exact (Deal.reads hnumbers).decodeText (rearranged_sortKeys _)

/-- Both zeros are read back from their texts, so rereading keeps them apart. -/
theorem reread_ne_of_oppositeZeros {x y : Float} (h : OppositeZeros x y) : reread x ≠ reread y := by
  have hzero : reread 0.0 = 0.0 := rfl
  have hnegative : reread (-0.0) = -0.0 := rfl
  rcases h with ⟨rfl, rfl⟩ | ⟨rfl, rfl⟩
  · rw [hzero, hnegative]
    exact zero_ne_negative_zero
  · rw [hzero, hnegative]
    exact zero_ne_negative_zero.symm

/-- Two deals that are the same with their numbers replaced have the same replacements. -/
theorem replacements_eq {deal other : Deal} {f : Float → Float} (h : deal.mapNumbers f = other.mapNumbers f) :
    f deal.appliance.retailPrice = f other.appliance.retailPrice
      ∧ f deal.appliance.askingPrice = f other.appliance.askingPrice
      ∧ f deal.returnPolicy.restockingFeePercent = f other.returnPolicy.restockingFeePercent :=
  ⟨congrArg (fun d => d.appliance.retailPrice) h, congrArg (fun d => d.appliance.askingPrice) h,
    congrArg (fun d => d.returnPolicy.restockingFeePercent) h⟩

/-- A deal with a zero and one with a minus zero in its place have different canonical texts. -/
theorem canonicalText_ne_of_splitByZero {deal other : Deal} {timestamp : String}
    (hdeal : (deal.vet timestamp).isOk = true) (hother : (other.vet timestamp).isOk = true)
    (h : deal.SplitByZero other) : deal.canonicalText ≠ other.canonicalText := by
  intro htext
  have hread := decodeText_canonicalText_of_vet hdeal
  rw [htext, decodeText_canonicalText_of_vet hother] at hread
  -- one text is read as one deal, so the numbers are reread alike
  obtain ⟨hretail, hasking, hfee⟩ := replacements_eq (Except.ok.inj hread)
  rcases h with hzeros | hzeros | hzeros
  · exact reread_ne_of_oppositeZeros hzeros hretail.symm
  · exact reread_ne_of_oppositeZeros hzeros hasking.symm
  · exact reread_ne_of_oppositeZeros hzeros hfee.symm

/-! ## Equal deals -/

/-- **Only a minus zero keeps equal deals apart.** Two admitted deals that compare equal have the same canonical
text exactly when no number is zero in one of them and minus zero in the other; and then they have the same
fingerprint, and at every time the same evaluation, with every message in it. -/
theorem canonicalText_eq_iff_of_beq {deal other : Deal} {timestamp : String}
    (hdeal : (deal.vet timestamp).isOk = true) (hother : (other.vet timestamp).isOk = true)
    (h : (deal == other) = true) :
    (deal.canonicalText = other.canonicalText ↔ ¬deal.SplitByZero other)
      ∧ (¬deal.SplitByZero other →
          deal.fingerprint = other.fingerprint
            ∧ ∀ time, deal.evaluate time = other.evaluate time) := by
  have hsplit : deal.SplitByZero other → deal.canonicalText ≠ other.canonicalText :=
    canonicalText_ne_of_splitByZero hdeal hother
  have hsame : ¬deal.SplitByZero other → deal = other :=
    (eq_or_splitByZero_of_beq hdeal hother h).resolve_right
  refine ⟨⟨fun htext hzero => hsplit hzero htext, fun hno => congrArg canonicalText (hsame hno)⟩, fun hno => ?_⟩
  rw [hsame hno]
  exact ⟨rfl, fun _ => rfl⟩

/-- A fee of minus zero: the deal compares equal to the one without a fee and has another canonical text. -/
theorem finalSaleDryer_split_by_fee :
    let dryer := Sample.finalSaleDryer.deal
    let other := { dryer with returnPolicy := { dryer.returnPolicy with restockingFeePercent := -0.0 } }
    let timestamp := "2025-06-01T12:00:00Z"
    (dryer.vet timestamp).isOk = true ∧ (other.vet timestamp).isOk = true ∧ (dryer == other) = true
      ∧ (dryer.canonicalText = other.canonicalText ↔ ¬dryer.SplitByZero other)
      ∧ (dryer == dryer) = true ∧ ¬dryer.SplitByZero dryer
      ∧ dryer.canonicalText ≠ other.canonicalText := by
  intro dryer other timestamp
  have hdryer : (dryer.vet timestamp).isOk = true := by decide +kernel
  have hother : (other.vet timestamp).isOk = true := by decide +kernel
  have hequal : (dryer == other) = true := by decide +kernel
  obtain ⟨htext, -⟩ := canonicalText_eq_iff_of_beq hdryer hother hequal
  have hself : (dryer == dryer) = true := by decide +kernel
  have hsplit : dryer.SplitByZero other := Or.inr (Or.inr (Or.inl ⟨rfl, rfl⟩))
  exact ⟨hdryer, hother, hequal, htext, hself,
    (canonicalText_eq_iff_of_beq hdryer hdryer hself).1.mp rfl, fun h => htext.mp h hsplit⟩

/-- Equal deals need not be cached under one text: an appliance that is given away and one that is offered for
minus nothing are both admitted and compare equal. Their canonical texts differ, and so do their evaluations and
the sentences about the price. -/
theorem given_away_twice :
    let free := { Sample.dentedRefrigerator.deal with
      appliance := { Sample.dentedRefrigerator.deal.appliance with askingPrice := 0.0 } }
    let other := { Sample.dentedRefrigerator.deal with
      appliance := { Sample.dentedRefrigerator.deal.appliance with askingPrice := -0.0 } }
    let timestamp := "2025-06-01T12:00:00Z"
    (free.vet timestamp).isOk = true ∧ (other.vet timestamp).isOk = true ∧ (free == other) = true
      ∧ free.canonicalText ≠ other.canonicalText
      ∧ free.evaluate timestamp ≠ other.evaluate timestamp
      ∧ free.price.findings.head?.map Finding.message
          = some "Asking $0 against retail $1899 is 100.0% off (saves $1899)"
      ∧ other.price.findings.head?.map Finding.message
          = some "Asking $-0 against retail $1899 is 100.0% off (saves $1899)" := by
  intro free other timestamp
  have hfree : (free.vet timestamp).isOk = true := by decide +kernel
  have hother : (other.vet timestamp).isOk = true := by decide +kernel
  have hsplit : free.SplitByZero other := Or.inr (Or.inl (Or.inl ⟨rfl, rfl⟩))
  refine ⟨hfree, hother, by decide +kernel, canonicalText_ne_of_splitByZero hfree hother hsplit, ?_,
    by decide +kernel, by decide +kernel⟩
  intro hsame
  have hasking := congrArg (fun out => out.price.asking) hsame
  rw [price_evaluate, price_evaluate] at hasking
  exact zero_ne_negative_zero hasking

end Deal

end Appraisal
