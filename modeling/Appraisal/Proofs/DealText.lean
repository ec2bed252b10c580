/-
Deals are read back from what is written about them.

Every part of a deal is read back from every rearrangement of its written form. The one kind of value of which
this is not true without a condition is the double, because its digits are scaled in two steps when they are
read. A deal whose three doubles are read back from their own texts is read back as a whole, from its compact
text and from its canonical text, and so no two such deals share a canonical text.
-/
import Appraisal.Deal.Format
import Appraisal.Desk
import Appraisal.Fingerprint
import Appraisal.Proofs.ValueText
import Appraisal.Samples

set_option autoImplicit false

namespace Appraisal

open Json

theorem readsBack_coverage (c : Coverage) : ReadsBack c := by
  cases c with
  | covered => rintro value ⟨⟩ pass; rfl
  | notCovered => rintro value ⟨⟩ pass; rfl
  | unknown => rintro value ⟨⟩ pass; rfl

/-! ## Numbers -/

/-- The appliance with each of its numbers replaced. -/
def Appliance.mapNumbers (f : Float → Float) (a : Appliance) : Appliance :=
  { a with retailPrice := f a.retailPrice, askingPrice := f a.askingPrice }

/-- The policy with its one number replaced. -/
def ReturnPolicy.mapNumbers (f : Float → Float) (p : ReturnPolicy) : ReturnPolicy :=
  { p with restockingFeePercent := f p.restockingFeePercent }

namespace Deal

/-- The numbers of a deal. -/
def numbers (deal : Deal) : List Float :=
  [deal.appliance.retailPrice, deal.appliance.askingPrice, deal.returnPolicy.restockingFeePercent]

/-- The deal with each of its numbers replaced. -/
def mapNumbers (f : Float → Float) (deal : Deal) : Deal :=
  { deal with
    appliance := deal.appliance.mapNumbers f
    returnPolicy := deal.returnPolicy.mapNumbers f }

end Deal

/-! ## The parts of a deal -/

theorem reads_appliance {a : Appliance} {f : Float → Float}
    (hretail : Reads decode (encode a.retailPrice) (f a.retailPrice))
    (hasking : Reads decode (encode a.askingPrice) (f a.askingPrice)) :
    Reads decode (encode a) (a.mapNumbers f) := by
  refine reads_record (List.Sublist.refl _) (by decide) fun r hr => ?_
  rw [hr.get (readsBack_word a.kind) (by simp), hr.get (readsBack_string a.brand) (by simp),
    hr.get (readsBack_string a.model) (by simp), hr.get hretail (by simp), hr.get hasking (by simp)]
  rfl

theorem readsBack_damage (d : Damage) : ReadsBack d := by
  refine reads_record (List.Sublist.refl _) (by decide) fun r hr => ?_
  rw [hr.get (readsBack_selection d.spots) (by simp), hr.get (readsBack_word d.severity) (by simp),
    hr.getD (readsBack_selection d.marks) _ (by simp)]
  rfl

theorem readsBack_retailer (s : Retailer) : ReadsBack s := by
  obtain ⟨kind, age⟩ := s
  cases age with
  | none =>
      have hnames : ["type"].Sublist ["type", "inventoryAgeDays"] := List.sublist_append_left _ _
      refine reads_record hnames (by decide) fun r hr => ?_
      rw [hr.get (readsBack_word kind) List.mem_cons_self, hr.getD_absent none (by simp [memberIfAny])]
      rfl
  | some days =>
      refine reads_record (List.Sublist.refl _) (by decide) fun r hr => ?_
      rw [hr.get (readsBack_word kind) List.mem_cons_self,
        hr.getD (readsBack_some_count days) none (List.mem_append_right _ List.mem_cons_self)]
      rfl

theorem readsBack_warranty (w : Warranty) : ReadsBack w := by
  refine reads_record (List.Sublist.refl _) (by decide) fun r hr => ?_
  rw [hr.get (readsBack_coverage w.manufacturer) (by simp),
    hr.get (readsBack_count w.retailerMonths) (by simp), hr.get (readsBack_bool w.laborIncluded) (by simp),
    hr.get (readsBack_bool w.partsIncluded) (by simp),
    hr.get (readsBack_bool w.extendedAvailable) (by simp)]
  rfl

theorem reads_returnPolicy {p : ReturnPolicy} {f : Float → Float}
    (hfee : Reads decode (encode p.restockingFeePercent) (f p.restockingFeePercent)) :
    Reads decode (encode p) (p.mapNumbers f) := by
  refine reads_record (List.Sublist.refl _) (by decide) fun r hr => ?_
  rw [hr.get (readsBack_count p.windowDays) (by simp), hr.get hfee (by simp),
    hr.get (readsBack_bool p.finalSale) (by simp)]
  rfl

theorem readsBack_installation (i : Installation) : ReadsBack i := by
  refine reads_record (List.Sublist.refl _) (by decide) fun r hr => ?_
  rw [hr.get (readsBack_word i.kind) (by simp), hr.getD (readsBack_selection i.visibleSides) _ (by simp)]
  rfl

theorem readsBack_buyer (b : Buyer) : ReadsBack b := by
  refine reads_record (List.Sublist.refl _) (by decide) fun r hr => ?_
  rw [hr.get (readsBack_word b.purpose) (by simp), hr.get (readsBack_word b.riskTolerance) (by simp),
    hr.get (readsBack_word b.priceFlexibility) (by simp)]
  rfl

theorem readsBack_inspection (i : Inspection) : ReadsBack i := by
  refine reads_record (List.Sublist.refl _) (by decide) fun r hr => ?_
  rw [hr.get (readsBack_bool i.rustPresent) (by simp), hr.get (readsBack_bool i.waterStaining) (by simp),
    hr.get (readsBack_bool i.cordDamaged) (by simp), hr.get (readsBack_bool i.odorPresent) (by simp),
    hr.get (readsBack_bool i.missingParts) (by simp), hr.get (readsBack_bool i.priorRepairs) (by simp),
    hr.get (readsBack_bool i.unusualSounds) (by simp), hr.get (readsBack_bool i.powersOn) (by simp)]
  rfl

theorem readsBack_some_inspection (i : Inspection) : ReadsBack (some i) := by
  refine readsBack_some (readsBack_inspection i) ?_
  rintro value ⟨⟩
  rw [Node.ofJson]
  exact Node.noConfusion

/-! ## Deals and requests -/

/-- The doubles of a deal are finite, and each is read back from its own text. -/
structure Deal.NumbersReadBack (deal : Deal) : Prop where
  finite_retail : Binary64.isFinite deal.appliance.retailPrice = true
  finite_asking : Binary64.isFinite deal.appliance.askingPrice = true
  finite_fee : Binary64.isFinite deal.returnPolicy.restockingFeePercent = true
  retail : decodeText decode (compact (encode deal.appliance.retailPrice))
    = .ok deal.appliance.retailPrice
  asking : decodeText decode (compact (encode deal.appliance.askingPrice))
    = .ok deal.appliance.askingPrice
  fee : decodeText decode (compact (encode deal.returnPolicy.restockingFeePercent))
    = .ok deal.returnPolicy.restockingFeePercent

/-- **A deal is read**, up to its numbers, from every rearrangement of what is written about it, when each of
its numbers is read as some double. -/
theorem Deal.reads {deal : Deal} {f : Float → Float} (h : ∀ x ∈ deal.numbers, Reads decode (encode x) (f x)) :
    Reads decode (encode deal) (deal.mapNumbers f) := by
  simp only [numbers, List.forall_mem_cons, List.not_mem_nil, false_implies, implies_true, and_true] at h
  obtain ⟨hretail, hasking, hfee⟩ := h
  have happliance := reads_appliance hretail hasking
  have hpolicy := reads_returnPolicy hfee
  obtain ⟨appliance, damage, retailer, warranty, policy, installation, buyer, inspection⟩ := deal
  cases inspection with
  | none =>
      -- an inspection that was not made is not written
      have hnames : ["appliance", "damage", "retailer", "warranty", "returnPolicy", "installation",
          "buyer"].Sublist ["appliance", "damage", "retailer", "warranty", "returnPolicy",
            "installation", "buyer", "inspection"] := List.sublist_append_left _ ["inspection"]
      refine reads_record hnames (by decide) fun r hr => ?_
      rw [hr.get happliance (by simp), hr.get (readsBack_damage damage) (by simp),
        hr.get (readsBack_retailer retailer) (by simp), hr.get (readsBack_warranty warranty) (by simp),
        hr.get hpolicy (by simp), hr.get (readsBack_installation installation) (by simp),
        hr.get (readsBack_buyer buyer) (by simp), hr.getD_absent none (by simp [memberIfAny])]
      rfl
  | some found =>
      refine reads_record (List.Sublist.refl _) (by decide) fun r hr => ?_
      rw [hr.get happliance (by simp), hr.get (readsBack_damage damage) (by simp),
        hr.get (readsBack_retailer retailer) (by simp), hr.get (readsBack_warranty warranty) (by simp),
        hr.get hpolicy (by simp), hr.get (readsBack_installation installation) (by simp),
        hr.get (readsBack_buyer buyer) (by simp),
        hr.getD (readsBack_some_inspection found) none (List.mem_append_right _ List.mem_cons_self)]
      rfl

/-- A deal is read back when its numbers are. -/
theorem Deal.NumbersReadBack.readsBack {deal : Deal} (h : deal.NumbersReadBack) : ReadsBack deal := by
  have hnumbers : ∀ x ∈ deal.numbers, Reads decode (encode x) (id x) := by
    simp only [numbers, List.forall_mem_cons, List.not_mem_nil, false_implies, implies_true, and_true]
    exact ⟨reads_float h.retail, reads_float h.asking, reads_float h.fee⟩
  exact Deal.reads hnumbers

/-- A request is read back when its deal is. -/
theorem readsBack_request {q : Request} (hdeal : ReadsBack q.deal) : ReadsBack q := by
  have hoptions : ReadsBack q.options := by
    refine reads_record (List.Sublist.refl _) (by decide) fun r hr => ?_
    rw [hr.get (readsBack_string q.options.timestamp) List.mem_cons_self]
    rfl
  refine reads_record (List.Sublist.refl _) (by decide) fun r hr => ?_
  rw [hr.get hdeal (by simp), hr.get hoptions (by simp)]
  rfl

/-! ## Texts -/

/-- The canonical text names the deal. -/
theorem Deal.NumbersReadBack.decodeText_canonicalText {deal : Deal} (h : deal.NumbersReadBack) :
    decodeText decode deal.canonicalText = .ok deal :=
  h.readsBack.decodeText (rearranged_sortKeys _)

/-- **Decoding undoes encoding.** A deal with finite doubles, each of which is read back from its own text,
is read back from its compact text and from its canonical text. So two such deals with the same canonical
text are the same deal, and only the hash can confuse two different ones. -/
theorem Deal.decode_encode_and_canonicalText_injective (deal : Deal) (h : deal.NumbersReadBack) :
    decodeText decode (compact (encode deal)) = .ok deal
      ∧ decodeText decode deal.canonicalText = .ok deal
      ∧ ∀ other : Deal, other.NumbersReadBack → other.canonicalText = deal.canonicalText →
          other = deal := by
  refine ⟨h.readsBack.decodeText (Rearranged.refl _), h.decodeText_canonicalText, ?_⟩
  intro other hother htext
  have hsame : decodeText decode deal.canonicalText = .ok other := htext ▸ hother.decodeText_canonicalText
  rw [h.decodeText_canonicalText] at hsame
  exact (Except.ok.inj hsame).symm

/-- A deal with texts that need escapes and prices that are no whole numbers. -/
def Sample.labelledRefrigerator : Deal :=
  { dentedRefrigerator.deal with
    appliance := ⟨.refrigerator, "Frost\"line\"\n", "FL\\2250 ü", 1899.99, 1149.5⟩ }

theorem Deal.labelledRefrigerator_reads_back :
    Sample.labelledRefrigerator.NumbersReadBack
      ∧ Sample.finalSaleDryer.deal.NumbersReadBack
      ∧ decodeText decode (compact (encode Sample.labelledRefrigerator)) = .ok Sample.labelledRefrigerator
      ∧ decodeText decode Sample.labelledRefrigerator.canonicalText = .ok Sample.labelledRefrigerator
      ∧ Sample.finalSaleDryer.deal.canonicalText ≠ Sample.labelledRefrigerator.canonicalText := by
  have hlabelled : Sample.labelledRefrigerator.NumbersReadBack :=
    ⟨by decide +kernel, by decide +kernel, by decide +kernel, rfl, rfl, rfl⟩
  have hdryer : Sample.finalSaleDryer.deal.NumbersReadBack :=
    ⟨by decide +kernel, by decide +kernel, by decide +kernel, rfl, rfl, rfl⟩
  obtain ⟨hcompact, hcanonical, hinjective⟩ :=
    Deal.decode_encode_and_canonicalText_injective Sample.labelledRefrigerator hlabelled
  refine ⟨hlabelled, hdryer, hcompact, hcanonical, fun htext => ?_⟩
  have hkind := congrArg (fun deal => deal.appliance.kind) (hinjective _ hdryer htext)
  exact absurd hkind (by decide)

end Appraisal
