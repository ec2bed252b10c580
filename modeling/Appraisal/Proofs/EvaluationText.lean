/-
Evaluations are read back from what is written about them.

Whatever an evaluation says, and whether its stages ran or were skipped, all of it is read back from every
rearrangement of its written form, as long as its nine numbers are finite. Only the numbers themselves can
differ, each by what its own text is read as (`reread`). If there is an infinite number, there is `null` in
its place and nothing is read.

So an evaluation whose numbers are read back from their own texts can be written down and taken in again
without a loss (`Evaluation.decode_encode`).
-/
import Appraisal.Archive
import Appraisal.Evaluation.Report
import Appraisal.Proofs.TaggedText

set_option autoImplicit false

namespace Appraisal

open Json Binary64

/-! ## Numbers -/

/-- The price with each of its numbers replaced. -/
def Price.mapNumbers (f : Float → Float) (price : Price) : Price :=
  { price with
    retail := f price.retail
    asking := f price.asking
    discountPercent := f price.discountPercent
    savings := f price.savings
    expectedDiscount := price.expectedDiscount.map f f
    fairPrice := price.fairPrice.map f f }

/-- The negotiation with its one number replaced. -/
def Bargaining.mapNumbers (f : Float → Float) (bargaining : Bargaining) : Bargaining :=
  { bargaining with targetPrice := f bargaining.targetPrice }

namespace Evaluation

/-- The numbers of an evaluation, those of placeholders among them. -/
def numbers (e : Evaluation) : List Float :=
  [e.price.retail, e.price.asking, e.price.discountPercent, e.price.savings, e.price.expectedDiscount.1,
    e.price.expectedDiscount.2, e.price.fairPrice.1, e.price.fairPrice.2, e.bargaining.value.targetPrice]

/-- The evaluation with each of its numbers replaced. -/
def mapNumbers (f : Float → Float) (e : Evaluation) : Evaluation :=
  { e with
    price := e.price.mapNumbers f
    bargaining := e.bargaining.map (Bargaining.mapNumbers f) }

end Evaluation

/-! ## Texts and tiers -/

theorem readsBack_texts (texts : List String) : ReadsBack texts :=
  readsBack_list texts fun text _ => readsBack_string text

theorem readsBack_tier (tier : DamageTier) : ReadsBack tier := by
  rintro value ⟨⟩ pass
  cases tier <;> rfl

/-! ## Assessments without numbers -/

theorem readsBack_visibility (v : Visibility) : ReadsBack v := by
  refine reads_record (List.Sublist.refl _) (by decide) fun r hr => ?_
  rw [hr.get (readsBack_tier v.tier) (by simp), hr.get (readsBack_string v.tierLabel) (by simp),
    hr.get (readsBack_list v.exposedSpots fun spot _ => readsBack_word spot) (by simp),
    hr.get (readsBack_bool v.acceptable) (by simp)]
  rfl

theorem readsBack_condition (c : Condition) : ReadsBack c := by
  obtain ⟨passed, inspected, blockers, warnings, advisory⟩ := c
  cases advisory with
  | none =>
      have hnames : ["passed", "inspected", "blockers", "warnings"].Sublist
          ["passed", "inspected", "blockers", "warnings", "advisory"] :=
        List.sublist_append_left _ ["advisory"]
      refine reads_record hnames (by decide) fun r hr => ?_
      rw [hr.get (readsBack_bool passed) (by simp), hr.get (readsBack_bool inspected) (by simp),
        hr.get (readsBack_texts blockers) (by simp), hr.get (readsBack_texts warnings) (by simp),
        hr.getD_absent none (by simp [memberIfAny])]
      rfl
  | some advisory =>
      have hadvisory : ReadsBack (some advisory) :=
        readsBack_option _ fun text _ => ⟨readsBack_string text, _, rfl⟩
      refine reads_record (List.Sublist.refl _) (by decide) fun r hr => ?_
      rw [hr.get (readsBack_bool passed) (by simp), hr.get (readsBack_bool inspected) (by simp),
        hr.get (readsBack_texts blockers) (by simp), hr.get (readsBack_texts warnings) (by simp),
        hr.getD hadvisory none (List.mem_append_right _ List.mem_cons_self)]
      rfl

theorem readsBack_protection (p : Protection) : ReadsBack p := by
  refine reads_record (List.Sublist.refl _) (by decide) fun r hr => ?_
  rw [hr.get (readsBack_word p.score) (by simp), hr.get (readsBack_word p.risk) (by simp),
    hr.get (readsBack_texts p.gaps) (by simp)]
  rfl

theorem readsBack_recourse (p : Recourse) : ReadsBack p := by
  refine reads_record (List.Sublist.refl _) (by decide) fun r hr => ?_
  rw [hr.get (readsBack_word p.rating) (by simp), hr.get (readsBack_bool p.hasWarranty) (by simp),
    hr.get (readsBack_texts p.concerns) (by simp)]
  rfl

theorem readsBack_delivery (d : Delivery) : ReadsBack d := by
  refine reads_record (List.Sublist.refl _) (by decide) fun r hr => ?_
  rw [hr.get (readsBack_word d.method) (by simp), hr.get (readsBack_string d.reason) (by simp),
    hr.get (readsBack_texts d.transport) (by simp), hr.get (readsBack_texts d.installation) (by simp)]
  rfl

theorem readsBack_verdict (v : Verdict) : ReadsBack v := by
  refine reads_record (List.Sublist.refl _) (by decide) fun r hr => ?_
  rw [hr.get (readsBack_word v.recommendation) (by simp), hr.get (readsBack_word v.confidence) (by simp),
    hr.get (readsBack_string v.summary) (by simp), hr.get (readsBack_count v.failedBlockers) (by simp),
    hr.get (readsBack_count v.failedWarnings) (by simp), hr.get (readsBack_count v.skipThreshold) (by simp),
    hr.get (readsBack_bool v.forcedByHalt) (by simp)]
  rfl

/-! ## The trace -/

theorem readsBack_finding (f : Finding) : ReadsBack f := by
  refine reads_record (List.Sublist.refl _) (by decide) fun r hr => ?_
  rw [hr.get (readsBack_string f.ruleId) (by simp), hr.get (readsBack_word f.severity) (by simp),
    hr.get (readsBack_bool f.passed) (by simp), hr.get (readsBack_string f.message) (by simp),
    hr.get (readsBack_texts f.inputsUsed) (by simp), hr.get (readsBack_texts f.outputsAffected) (by simp)]
  rfl

theorem readsBack_trace (t : Trace) : ReadsBack t := by
  have hstage : ReadsBack t.haltedAt :=
    readsBack_option _ fun stage _ => ⟨readsBack_word stage, _, rfl⟩
  have hrule : ReadsBack t.haltedBy :=
    readsBack_option _ fun ruleId _ => ⟨readsBack_string ruleId, _, rfl⟩
  refine reads_record (List.Sublist.refl _) (by decide) fun r hr => ?_
  rw [hr.get (readsBack_list t.findings fun finding _ => readsBack_finding finding) (by simp),
    hr.get (readsBack_list t.stages fun stage _ => readsBack_word stage) (by simp), hr.get? hstage (by simp),
    hr.get? hrule (by simp), hr.get (readsBack_string t.evaluatorVersion) (by simp),
    hr.get (readsBack_string t.schemaVersion) (by simp), hr.get (readsBack_string t.rulesetVersion) (by simp),
    hr.get (readsBack_string t.timestamp) (by simp), hr.get (readsBack_string t.fingerprint) (by simp)]
  rfl

/-! ## Assessments with numbers -/

section Numbers

variable {f : Float → Float}

theorem reads_price {p : Price} (h : ∀ x ∈ [p.retail, p.asking, p.discountPercent, p.savings,
    p.expectedDiscount.1, p.expectedDiscount.2, p.fairPrice.1, p.fairPrice.2], Reads decode (encode x) (f x)) :
    Reads decode (encode p) (p.mapNumbers f) := by
  simp only [List.forall_mem_cons, List.not_mem_nil, false_implies, implies_true, and_true] at h
  obtain ⟨hretail, hasking, hdiscount, hsavings, hminimum, hmaximum, hlower, hupper⟩ := h
  refine reads_record (List.Sublist.refl _) (by decide) fun r hr => ?_
  rw [hr.get hretail (by simp), hr.get hasking (by simp), hr.get hdiscount (by simp),
    hr.get hsavings (by simp), hr.get (readsBack_word p.rating) (by simp),
    hr.get (reads_pair hminimum hmaximum) (by simp), hr.get (reads_pair hlower hupper) (by simp),
    hr.get (readsBack_bool p.meetsExpectation) (by simp)]
  rfl

theorem reads_bargaining {b : Bargaining} (htarget : Reads decode (encode b.targetPrice) (f b.targetPrice)) :
    Reads decode (encode b) (b.mapNumbers f) := by
  refine reads_record (List.Sublist.refl _) (by decide) fun r hr => ?_
  rw [hr.get (readsBack_bool b.possible) (by simp), hr.get (readsBack_word b.odds) (by simp),
    hr.get (readsBack_count b.score) (by simp), hr.get htarget (by simp),
    hr.get (readsBack_texts b.leverage) (by simp), hr.get (readsBack_texts b.otherAsks) (by simp)]
  rfl

end Numbers

/-! ## Slots -/

theorem readsBack_protectionSlot (slot : Slot Protection) : ReadsBack slot := by
  refine slot.readsBack rfl (by simp) ?_ (readsBack_protection slot.value)
  simp only [List.forall_mem_cons, List.not_mem_nil, false_implies, implies_true, and_true]
  exact ⟨fun _ => loads_word _ _, fun _ => loads_word _ _, loads_texts _⟩

theorem readsBack_recourseSlot (slot : Slot Recourse) : ReadsBack slot := by
  refine slot.readsBack rfl (by simp) ?_ (readsBack_recourse slot.value)
  simp only [List.forall_mem_cons, List.not_mem_nil, false_implies, implies_true, and_true]
  exact ⟨fun _ => loads_word _ _, fun _ => loads_bool _ _, loads_texts _⟩

theorem readsBack_deliverySlot (slot : Slot Delivery) : ReadsBack slot := by
  refine slot.readsBack rfl (by simp) ?_ (readsBack_delivery slot.value)
  simp only [List.forall_mem_cons, List.not_mem_nil, false_implies, implies_true, and_true]
  exact ⟨fun _ => loads_word _ _, fun _ => loads_string _ _, loads_texts _, loads_texts _⟩

theorem reads_bargainingSlot {slot : Slot Bargaining} {f : Float → Float}
    (htarget : Reads decode (encode slot.value.targetPrice) (f slot.value.targetPrice)) :
    Reads decode (encode slot) (slot.map (Bargaining.mapNumbers f)) := by
  refine slot.reads _ rfl (by simp) ?_ (reads_bargaining htarget)
  simp only [List.forall_mem_cons, List.not_mem_nil, false_implies, implies_true, and_true]
  exact ⟨fun _ => loads_bool _ _, fun _ => loads_word _ _, fun _ => loads_count _ _,
    fun _ => loads_float _ _, loads_texts _, loads_texts _⟩

/-! ## The evaluation -/

namespace Evaluation

/-- **An evaluation is read**, up to its numbers, from every rearrangement of what is written about it, when
each of its numbers is read as some double. -/
theorem reads {e : Evaluation} {f : Float → Float} (h : ∀ x ∈ e.numbers, Reads decode (encode x) (f x)) :
    Reads decode (encode e) (e.mapNumbers f) := by
  have hprice : Reads decode (encode e.price) (e.price.mapNumbers f) :=
    reads_price fun x hx => h x (List.mem_append_left [e.bargaining.value.targetPrice] hx)
  have htarget := h e.bargaining.value.targetPrice (by simp [numbers])
  refine reads_record (List.Sublist.refl _) (by decide) fun r hr => ?_
  rw [hr.get (readsBack_verdict e.verdict) (by simp), hr.get hprice (by simp),
    hr.get (readsBack_visibility e.visibility) (by simp), hr.get (readsBack_protectionSlot e.protection) (by simp),
    hr.get (readsBack_condition e.condition) (by simp), hr.get (reads_bargainingSlot htarget) (by simp),
    hr.get (readsBack_deliverySlot e.delivery) (by simp), hr.get (readsBack_recourseSlot e.recourse) (by simp),
    hr.get (readsBack_trace e.trace) (by simp)]
  rfl

/-- An evaluation with finite numbers is decoded again from its text, up to what its numbers are read as. -/
theorem decodeText_encode {e : Evaluation} (h : ∀ x ∈ e.numbers, isFinite x = true) :
    decodeText decode (compact (encode e)) = .ok (e.mapNumbers reread) :=
  (reads fun x hx => reads_float (decodeText_encode_float (h x hx))).decodeText (Rearranged.refl _)

/-- Each number is read back from its own text. It is finite then, because any other number is written as
`null`. -/
def NumbersReadBack (e : Evaluation) : Prop :=
  ∀ x ∈ e.numbers, decodeText decode (compact (encode x)) = .ok x

@[simp] theorem mapNumbers_id (e : Evaluation) : e.mapNumbers id = e := by
  obtain ⟨verdict, price, visibility, protection, condition, bargaining, delivery, recourse, trace⟩ := e
  cases bargaining <;> rfl

/-- **Decoding undoes encoding.** Any evaluation whose numbers are read back from their own texts is decoded
from its text as the evaluation that it was, whatever it says, wherever it claims to have been halted, and
whichever of its stages ran. So it has the key that it had in an archive, the same summary of its trace and
the same report. -/
theorem decode_encode (e : Evaluation) (h : e.NumbersReadBack) :
    ∃ again, decodeText decode (compact (encode e)) = .ok again
      ∧ again = e
      ∧ ArchiveKey.of again = ArchiveKey.of e
      ∧ again.trace.summary = e.trace.summary
      ∧ Report.text again = Report.text e := by
  have hreads : Reads decode (encode e) (e.mapNumbers id) := reads fun x hx => reads_float (h x hx)
  rw [mapNumbers_id] at hreads
  exact ⟨e, hreads.decodeText (Rearranged.refl _), rfl, rfl, rfl, rfl⟩

/-- An evaluation that no deal has: a stage in the middle was skipped and a later one ran, the stages at which
they were halted disagree, a rule halted it but no stage, and its texts need escapes. -/
def patchwork : Evaluation where
  verdict := ⟨.proceed, .low, "\"quoted\"\n\t\\ ü", 7, 0, 4294967295, true⟩
  price := ⟨1899.99, -0.0, -12.5, 1e16, .poor, (0.1, 2.5e-9), (250.5, -3.0), false⟩
  visibility := ⟨.prominent, "", [.handle, .back, .handle], false⟩
  protection := .evaluated ⟨.limited, .high, ["", "gap"]⟩
  condition := ⟨true, false, ["rust"], [], some "look"⟩
  bargaining := .skipped ⟨true, .high, 9, 600.0, ["age"], []⟩ .verdict
  delivery := .evaluated ⟨.either, "van", [], ["level it"]⟩
  recourse := .skipped ⟨.excellent, true, []⟩ .damage
  trace := ⟨[⟨"no dots", .info, false, "\x00", ["a.b"], []⟩], [.verdict, .damage, .verdict], none,
    some "", "0", "", "9.9", "yesterday", "not a hash"⟩

theorem decode_encode_patchwork :
    patchwork.NumbersReadBack
      ∧ decodeText decode (compact (encode patchwork)) = .ok patchwork
      ∧ ArchiveKey.of patchwork = ⟨"not a hash", "9.9"⟩ := by
  have hnumbers : patchwork.NumbersReadBack := by
    show ∀ x ∈ [(1899.99 : Float), -0.0, -12.5, 1e16, 0.1, 2.5e-9, 250.5, -3.0, 600.0], _
    simp only [List.forall_mem_cons, List.not_mem_nil, false_implies, implies_true, and_true]
    exact ⟨rfl, rfl, rfl, rfl, rfl, rfl, rfl, rfl, rfl⟩
  obtain ⟨again, hdecode, rfl, -⟩ := decode_encode patchwork hnumbers
  exact ⟨hnumbers, hdecode, rfl⟩

end Evaluation

end Appraisal
