/-
Which requests are turned away, and what a request leaves behind.

There are five things that a request has to satisfy, and they are judged in a fixed order (`vet_eq`). The first one
that it fails is the answer, also if it fails others that come later, and then the archive is what it was. A
request that fails none of them gets its evaluation, which is stored under its own key and is all that the archive
changes by. This holds of every archive, whether or not its table and its arrivals agree.

The comparisons are those of doubles, for which a NaN is neither below nor above anything and both zeros are the
same. Together the five requirements say what they should of the numbers that the doubles stand for
(`forall_holds_iff`), since a double that stands for no number is turned away before it is compared.
-/
import Appraisal.Desk
import Appraisal.Proofs.Archive
import Appraisal.Proofs.Course
import Appraisal.Proofs.DoubleValue
import Appraisal.Samples

set_option autoImplicit false

namespace Appraisal

open Binary64

/-! ## Requirements -/

/-- What a request has to satisfy. -/
inductive Requirement where
  | retailFinite
  | askingFinite
  | askingNotNegative
  | feeInRange
  | timestampReadable

namespace Requirement

/-- The requirements in the order in which they are judged. -/
def order : List Requirement :=
  [.retailFinite, .askingFinite, .askingNotNegative, .feeInRange, .timestampReadable]

theorem mem_order (requirement : Requirement) : requirement ∈ order := by
  cases requirement <;> simp [order]

/-- The request satisfies the requirement. -/
def Holds (request : Request) : Requirement → Prop
  | retailFinite => isFinite request.deal.appliance.retailPrice = true
  | askingFinite => isFinite request.deal.appliance.askingPrice = true
  | askingNotNegative => ¬request.deal.appliance.askingPrice < 0.0
  | feeInRange =>
    isFinite request.deal.returnPolicy.restockingFeePercent = true
      ∧ 0.0 ≤ request.deal.returnPolicy.restockingFeePercent
      ∧ request.deal.returnPolicy.restockingFeePercent ≤ 100.0
  | timestampReadable => (Timestamp.check (Text.trim request.options.timestamp)).isOk = true

instance (request : Request) : DecidablePred (Holds request)
  | retailFinite => inferInstanceAs (Decidable (_ = _))
  | askingFinite => inferInstanceAs (Decidable (_ = _))
  | askingNotNegative => inferInstanceAs (Decidable (¬_))
  | feeInRange => inferInstanceAs (Decidable (_ ∧ _))
  | timestampReadable => inferInstanceAs (Decidable (_ = _))

/-- What a request that fails a requirement is told. -/
def refusal (request : Request) : Requirement → Refusal
  | retailFinite => .notFinite "appliance.retailPrice"
  | askingFinite => .notFinite "appliance.askingPrice"
  | askingNotNegative => .negative "appliance.askingPrice" request.deal.appliance.askingPrice
  | feeInRange => .feeOutOfRange request.deal.returnPolicy.restockingFeePercent
  | timestampReadable => .badTimestamp request.options.timestamp

/-- The request fails the requirement and satisfies all that come before it. -/
def FailsFirst (request : Request) (requirement : Requirement) : Prop :=
  ¬requirement.Holds request
    ∧ ∃ before after, order = before ++ requirement :: after ∧ ∀ earlier ∈ before, earlier.Holds request

variable (request : Request)

/-- Judges a request by some requirements, one after the other. -/
def judge : List Requirement → Except Refusal Unit
  | [] => .ok ()
  | requirement :: rest =>
    if requirement.Holds request then judge rest else .error (requirement.refusal request)

variable {request}

theorem judge_of_holds {requirements : List Requirement}
    (hholds : ∀ requirement ∈ requirements, requirement.Holds request) : judge request requirements = .ok () := by
  induction requirements with
  | nil => rfl
  | cons first rest ih =>
      obtain ⟨hfirst, hrest⟩ := List.forall_mem_cons.mp hholds
      rw [judge, if_pos hfirst]
      exact ih hrest

theorem judge_of_fails {before after : List Requirement} {requirement : Requirement}
    (hholds : ∀ earlier ∈ before, earlier.Holds request) (hfails : ¬requirement.Holds request) :
    judge request (before ++ requirement :: after) = .error (requirement.refusal request) := by
  induction before with
  | nil => rw [List.nil_append, judge, if_neg hfails]
  | cons first rest ih =>
      obtain ⟨hfirst, hrest⟩ := List.forall_mem_cons.mp hholds
      rw [List.cons_append, judge, if_pos hfirst]
      exact ih hrest

/-- A request that fails a requirement fails one of them first. -/
theorem exists_failsFirst {requirement : Requirement} (hfails : ¬requirement.Holds request) :
    ∃ first : Requirement, first.FailsFirst request := by
  cases hfind : order.find? fun r => !decide (r.Holds request) with
  | none =>
      have hall := List.find?_eq_none.mp hfind requirement requirement.mem_order
      exact absurd hfails (by simpa using hall)
  | some first =>
      obtain ⟨hfirst, before, after, horder, hbefore⟩ := List.find?_eq_some_iff_append.mp hfind
      exact ⟨first, by simpa using hfirst, before, after, horder, by simpa using hbefore⟩

variable (request)

/-- Satisfying all five requirements is a matter of the numbers that the doubles stand for. -/
theorem forall_holds_iff :
    (∀ requirement : Requirement, requirement.Holds request)
      ↔ isFinite request.deal.appliance.retailPrice = true
        ∧ isFinite request.deal.appliance.askingPrice = true
        ∧ 0 ≤ value request.deal.appliance.askingPrice
        ∧ isFinite request.deal.returnPolicy.restockingFeePercent = true
        ∧ 0 ≤ value request.deal.returnPolicy.restockingFeePercent
        ∧ value request.deal.returnPolicy.restockingFeePercent ≤ 100
        ∧ (Timestamp.check (Text.trim request.options.timestamp)).isOk = true := by
  have hrange : ∀ x : Float, isFinite x = true → (0.0 ≤ x ∧ x ≤ 100.0 ↔ 0 ≤ value x ∧ value x ≤ 100) := by
    intro x hx
    rw [nonneg_iff_value_nonneg hx, le_iff_value_le hx value_hundred.1, value_hundred.2]
  constructor
  · intro h
    have hasking := h .askingFinite
    obtain ⟨hfee, hfeeRange⟩ := h .feeInRange
    obtain ⟨hlow, hhigh⟩ := (hrange _ hfee).mp hfeeRange
    exact ⟨h .retailFinite, hasking, (not_neg_iff_value_nonneg hasking).mp (h .askingNotNegative), hfee, hlow, hhigh,
      h .timestampReadable⟩
  · rintro ⟨hretail, hasking, hpositive, hfee, hlow, hhigh, htimestamp⟩ requirement
    cases requirement with
    | retailFinite => exact hretail
    | askingFinite => exact hasking
    | askingNotNegative => exact (not_neg_iff_value_nonneg hasking).mpr hpositive
    | feeInRange => exact ⟨hfee, (hrange _ hfee).mpr ⟨hlow, hhigh⟩⟩
    | timestampReadable => exact htimestamp

end Requirement

/-! ## Judging a request -/

theorem ite_not_eq {α : Type} {c : Bool} {p : Prop} [Decidable p] (h : c = true ↔ p) (yes no : α) :
    (if (!c) = true then no else yes) = if p then yes else no := by
  by_cases hp : p
  · rw [if_pos hp, h.mpr hp]
    rfl
  · rw [if_neg hp, Bool.eq_false_iff.mpr (mt h.mp hp)]
    rfl

/-- **A request is judged by its five requirements in their order.** -/
theorem Deal.vet_eq (request : Request) :
    request.deal.vet request.options.timestamp = Requirement.judge request Requirement.order := by
  have hfee : isPercentage request.deal.returnPolicy.restockingFeePercent = true
      ↔ Requirement.Holds request .feeInRange := by
    rw [isPercentage, Bool.and_eq_true, Bool.and_eq_true, decide_eq_true_iff, decide_eq_true_iff, and_assoc]
    rfl
  rw [vet, ite_not_eq (p := Requirement.Holds request .retailFinite) Iff.rfl,
    ite_not_eq (p := Requirement.Holds request .askingFinite) Iff.rfl, ite_not_eq hfee,
    ite_not_eq (c := Timestamp.isValid _) (p := Requirement.Holds request .timestampReadable) Iff.rfl,
    ← ite_not (request.deal.appliance.askingPrice < 0.0)]
  rfl

namespace Desk

variable (archive : Archive) {request : Request}

theorem evaluate_of_failsFirst {requirement : Requirement} (h : requirement.FailsFirst request) :
    evaluate archive request = (.error (.refused (requirement.refusal request)), archive) := by
  obtain ⟨hfails, before, after, horder, hholds⟩ := h
  rw [evaluate, Deal.vet_eq, horder, Requirement.judge_of_fails hholds hfails]

theorem evaluate_of_holds (h : ∀ requirement : Requirement, requirement.Holds request) :
    evaluate archive request
      = (.ok (request.deal.evaluate request.options.timestamp),
        (archive.put (.of (request.deal.evaluate request.options.timestamp))
          (request.deal.evaluate request.options.timestamp)).2) := by
  rw [evaluate, Deal.vet_eq, Requirement.judge_of_holds fun requirement _ => h requirement]
  rfl

/-- **A request is turned away exactly if it fails a requirement, and the first one it fails is the answer.** A
request that is turned away leaves the archive as it is. Any other request gets its evaluation, and the archive is
what a store of this evaluation makes of it: under the key of the deal there is the evaluation, the key comes last
unless it was there, and nothing else changes but what may have to go to make room, the oldest first. And what the
requirements ask of the doubles of a request they ask of the numbers that these stand for. -/
theorem evaluate_by_requirements (archive : Archive) (request : Request) :
    let answer := (evaluate archive request).1
    let after := (evaluate archive request).2
    let evaluation := request.deal.evaluate request.options.timestamp
    let key := ArchiveKey.current request.deal.fingerprint
    ((∃ error, answer = .error error) ↔ ∃ requirement : Requirement, ¬requirement.Holds request)
      ∧ (∀ requirement : Requirement, requirement.FailsFirst request →
        answer = .error (.refused (requirement.refusal request)) ∧ after = archive)
      ∧ ((∀ requirement : Requirement, requirement.Holds request) →
        answer = .ok evaluation
          ∧ after = (archive.put key evaluation).2
          ∧ after.capacity = archive.capacity
          ∧ (archive.Sound → after.get? key = some evaluation)
          ∧ ∃ gone, archive.arrivals ++ (if key ∈ archive.entries then [] else [key]) = gone ++ after.arrivals
            ∧ (key ∈ archive.entries ∨ archive.entries.size < archive.capacity → gone = [])
            ∧ ∀ other, after.get? other
                = if other ∈ gone then none
                  else if key = other then some evaluation else archive.get? other)
      ∧ ((∀ requirement : Requirement, requirement.Holds request)
        ↔ isFinite request.deal.appliance.retailPrice = true
          ∧ isFinite request.deal.appliance.askingPrice = true
          ∧ 0 ≤ value request.deal.appliance.askingPrice
          ∧ isFinite request.deal.returnPolicy.restockingFeePercent = true
          ∧ 0 ≤ value request.deal.returnPolicy.restockingFeePercent
          ∧ value request.deal.returnPolicy.restockingFeePercent ≤ 100
          ∧ (Timestamp.check (Text.trim request.options.timestamp)).isOk = true) := by
  intro answer after evaluation key
  have hkey : ArchiveKey.of evaluation = key := by
    rw [ArchiveKey.of, Deal.fingerprint_trace_evaluate, Deal.rulesetVersion_trace_evaluate]
    rfl
  refine ⟨⟨fun ⟨error, hanswer⟩ => ?_, fun ⟨requirement, hfails⟩ => ?_⟩, fun requirement hfirst => ?_, fun hholds => ?_,
    Requirement.forall_holds_iff request⟩
  · by_contra hall
    rw [not_exists_not] at hall
    have hsuccess : answer = .ok evaluation := congrArg Prod.fst (evaluate_of_holds archive hall)
    rw [hsuccess] at hanswer
    exact nomatch hanswer
  · obtain ⟨first, hfirst⟩ := Requirement.exists_failsFirst hfails
    exact ⟨_, congrArg Prod.fst (evaluate_of_failsFirst archive hfirst)⟩
  · have hrefused := evaluate_of_failsFirst archive hfirst
    exact ⟨congrArg Prod.fst hrefused, congrArg Prod.snd hrefused⟩
  · have hsuccess := evaluate_of_holds archive hholds
    have hafter : after = (archive.put key evaluation).2 := by
      rw [← hkey]
      exact congrArg Prod.snd hsuccess
    obtain ⟨hcapacity, hframe⟩ := archive.put_frame key evaluation
    rw [hafter]
    exact ⟨congrArg Prod.fst hsuccess, rfl, hcapacity, fun hsound => hsound.get?_put_self key evaluation, hframe⟩

/-- A request that fails four of the five requirements is told the first of them. An asking price of minus zero is
not below zero, and the request is not turned away. -/
theorem nan_is_first_and_minus_zero_passes :
    let deal := Sample.dentedRefrigerator.deal
    let hopeless : Request :=
      { deal := { deal with
          appliance := { deal.appliance with retailPrice := 0.0 / 0.0, askingPrice := -1.0 }
          returnPolicy := { deal.returnPolicy with restockingFeePercent := 140.0 } }
        options := ⟨"yesterday"⟩ }
    let free : Request :=
      { deal := { deal with appliance := { deal.appliance with askingPrice := -0.0 } }
        options := ⟨" 2025-06-01T12:00:00Z "⟩ }
    let archive := Archive.empty 1
    ([.retailFinite, .askingNotNegative, .feeInRange, .timestampReadable] : List Requirement).all
        (fun requirement => !decide (requirement.Holds hopeless)) = true
      ∧ evaluate archive hopeless = (.error (.refused (.notFinite "appliance.retailPrice")), archive)
      ∧ (evaluate archive free).1 = .ok (free.deal.evaluate " 2025-06-01T12:00:00Z ")
      ∧ (evaluate archive free).2.get? (.current free.deal.fingerprint)
        = some (free.deal.evaluate " 2025-06-01T12:00:00Z ") := by
  intro deal hopeless free archive
  have hfirst : Requirement.retailFinite.FailsFirst hopeless :=
    ⟨by decide +kernel, [], _, rfl, fun _ hearlier => absurd hearlier List.not_mem_nil⟩
  have hholds : ∀ requirement : Requirement, requirement.Holds free := by
    intro requirement
    cases requirement <;> decide +kernel
  obtain ⟨-, hrefused, -⟩ := evaluate_by_requirements archive hopeless
  obtain ⟨hanswer, hafter⟩ := hrefused .retailFinite hfirst
  obtain ⟨-, -, hadmitted, -⟩ := evaluate_by_requirements archive free
  obtain ⟨hevaluation, -, -, hkept, -⟩ := hadmitted hholds
  exact ⟨by decide +kernel, Prod.ext hanswer hafter, hevaluation, hkept (Archive.sound_empty 1)⟩

end Desk

end Appraisal
