/-
What the messages of a deal are made of.

A message is put together from fixed texts, words, counts and numbers that the deal shows. None of the fixed texts
and words breaks a line or meets the name of what is no finite number, so a message does so only if one of its
numbers does. Two things follow. If the numbers of a deal are finite, its messages show finite numbers only. And
since numbers are shown on one line, finite or not, so are messages.
-/
import Appraisal.Proofs.Course
import Appraisal.Proofs.Published
import Appraisal.Proofs.ShownNumbers
import Appraisal.Proofs.SummaryLine

set_option autoImplicit false

namespace Appraisal

open Binary64 Text

/-! ## Composed texts -/

/-- A fixed text without line breaks that avoids the names of what is no finite number. -/
def isPlain (cs : List Char) : Bool :=
  Decimal.avoidsNames cs && cs.all fun c => c ≠ '\n' ∧ c ≠ '\r'

/-- A text that is put together from plain texts, counts and numbers of a kind. -/
inductive Composed (Shown : Float → Prop) : String → Prop where
  | literal {cs : List Char} (h : isPlain cs = true) : Composed Shown (String.ofList cs)
  | nat (n : Nat) : Composed Shown (toString n)
  | number {x : Float} (h : Shown x) (places : Nat) : Composed Shown (Decimal.fixed places x)
  | append {text behind : String} (h : Composed Shown text) (h' : Composed Shown behind) :
    Composed Shown (text ++ behind)

/-- A number is shown on one line, also by its name. -/
theorem isOneLine_fixed (places : Nat) (x : Float) : IsOneLine (Decimal.fixed places x) := by
  have hsign : ∀ negative, ∀ c ∈ Decimal.signText negative, c ≠ '\n' ∧ c ≠ '\r' := by
    intro negative
    cases negative <;> simp [Decimal.signText]
  rw [Decimal.fixed]
  cases shape x with
  | notANumber => exact .literal (by decide)
  | infinite negative =>
      show IsOneLine (String.ofList (Decimal.signText negative ++ ['i', 'n', 'f']))
      rw [IsOneLine, String.toList_ofList, List.forall_mem_append]
      exact ⟨hsign negative, by simp⟩
  | finite negative m e =>
      rw [IsOneLine, String.toList_ofList, List.forall_mem_append]
      refine ⟨hsign negative, fun c hc => ?_⟩
      rcases isDigit_or_eq_of_mem_unitsText hc with hdigit | rfl
      · constructor <;> rintro rfl <;> exact absurd hdigit (by decide)
      · decide

namespace Composed

variable {Shown : Float → Prop} {text : String}

/-- A plain text that is put together already. -/
theorem joined (h : isPlain text.toList = true) : Composed Shown text := by
  rw [← String.ofList_toList (s := text)]
  exact .literal h

theorem intercalate {separator : String} {texts : List String} (hseparator : Composed Shown separator)
    (htexts : ∀ text ∈ texts, Composed Shown text) : Composed Shown (separator.intercalate texts) := by
  induction texts with
  | nil => exact .literal (by decide)
  | cons first rest ih =>
      have hfirst := htexts first List.mem_cons_self
      cases rest with
      | nil => simpa using hfirst
      | cons second rest =>
          rw [String.intercalate_cons_cons]
          exact (hfirst.append hseparator).append (ih fun text h => htexts text (List.mem_cons_of_mem _ h))

/-- A composed text shows finite numbers only if all that it shows are finite. -/
theorem seamless (h : Composed (fun x => isFinite x = true) text) : Seamless text := by
  induction h with
  | literal h => exact .literal (Bool.and_eq_true_iff.mp h).1
  | nat n => exact seamless_nat n
  | number h places => exact seamless_fixed h places
  | append _ _ ih ih' => exact ih.append ih'

/-- A composed text is on one line. -/
theorem isOneLine (h : Composed Shown text) : IsOneLine text := by
  induction h with
  | literal h => exact .literal (Bool.and_eq_true_iff.mp h).2
  | nat n => exact isOneLine_nat n
  | number _ places => exact isOneLine_fixed places _
  | append _ _ ih ih' => exact ih.append ih'

end Composed

/-! ## The messages of the stages -/

section Stages

variable {Shown : Float → Prop} {f : Finding}

theorem Visibility.composed_message {damage : Damage} {installation : Installation}
    (hf : f ∈ (assess damage installation).findings) : Composed Shown f.message := by
  have hseverity : Composed Shown (Vocabulary.word damage.severity) := by
    cases damage.severity <;> exact .literal (by decide)
  have hlabel : Composed Shown (tierOf damage).label := by
    cases tierOf damage <;> exact .literal (by decide)
  -- a list of places is made of fixed words and commas
  have hspots : ∀ spots : List Spot, Composed Shown (spotList spots) := by
    intro spots
    refine .intercalate (.literal (by decide)) fun text htext => ?_
    obtain ⟨spot, _, rfl⟩ := List.mem_map.mp htext
    cases spot <;> exact .literal (by decide)
  have hlocated : Composed Shown (located damage) := by
    rw [located]
    split
    · exact .literal (by decide)
    · exact hspots _
  simp only [assess, List.mem_cons, List.not_mem_nil, or_false] at hf
  rcases hf with rfl | rfl
  · show Composed Shown (tierMessage damage)
    unfold tierMessage
    refine .append (.append (.append (.append (.append (.append (.append ?_ (.nat _)) ?_) hlabel) ?_)
      hseverity) ?_) hlocated <;>
      exact .literal (by decide)
  · show Composed Shown (exposureMessage damage installation)
    unfold exposureMessage
    split
    · refine .append (.append ?_ (hspots _)) ?_ <;> exact .literal (by decide)
    · split <;> exact .literal (by decide)

theorem Price.isFinite_expectedDiscount (tier : DamageTier) :
    isFinite tier.expectedDiscount.1 = true ∧ isFinite tier.expectedDiscount.2 = true := by
  cases tier <;> decide

/-- The pricing stage shows the two prices, the savings and the discount. -/
theorem Price.composed_message (appliance : Appliance) (tier : DamageTier)
    (hfinite : ∀ x, isFinite x = true → Shown x) (hretail : Shown appliance.retailPrice)
    (hasking : Shown appliance.askingPrice) (hsavings : Shown (assess appliance tier).result.savings)
    (hpercent : Shown (assess appliance tier).result.discountPercent)
    (hf : f ∈ (assess appliance tier).findings) : Composed Shown f.message := by
  have hrating : ∀ rating : DiscountRating, Composed Shown (Vocabulary.word rating) := by
    intro rating
    cases rating <;> exact .literal (by decide)
  obtain ⟨hminimum, hmaximum⟩ := isFinite_expectedDiscount tier
  -- every number that the three messages show, as a part of a text
  have hasking := Composed.number hasking 0
  have hretail := Composed.number hretail 0
  have hpercent := Composed.number hpercent 1
  have hsavings := Composed.number hsavings 0
  have hminimum := Composed.number (hfinite _ hminimum) 0
  have hmaximum := Composed.number (hfinite _ hmaximum) 0
  simp only [assess, List.mem_cons, List.not_mem_nil, or_false] at hf
  rcases hf with rfl | rfl | rfl
  · show Composed Shown (discountMessage _ _)
    unfold discountMessage
    refine .append (.append (.append (.append (.append (.append (.append (.append ?_ hasking) ?_) hretail)
      ?_) hpercent) ?_) hsavings) ?_ <;>
      exact .literal (by decide)
  · show Composed Shown (ratingMessage _)
    unfold ratingMessage
    refine .append (.append (.append ?_ hpercent) ?_) (hrating _) <;>
      exact .literal (by decide)
  · show Composed Shown (expectationMessage _ _)
    unfold expectationMessage
    dsimp only
    split
    · refine .append (.append (.append (.append (.append (.append (.append (.append ?_ hpercent) ?_)
        hminimum) ?_) hmaximum) ?_) (.nat _)) ?_ <;>
        exact .literal (by decide)
    · refine .append (.append (.append (.append (.append (.append ?_ hpercent) ?_) hminimum) ?_)
        (.nat _)) ?_ <;>
        exact .literal (by decide)

theorem Condition.composed_message {inspected : Option Inspection} (hf : f ∈ (assess inspected).findings) :
    Composed Shown f.message := by
  cases inspected with
  | none => exact absurd hf List.not_mem_nil
  | some inspection =>
      rw [assess, List.mem_append, List.mem_map, List.mem_singleton] at hf
      rcases hf with ⟨check, hcheck, rfl⟩ | rfl
      · show Composed Shown (check.message inspection)
        simp only [checks, List.mem_cons, List.not_mem_nil, or_false] at hcheck
        unfold Check.message
        split <;> rcases hcheck with rfl | rfl | rfl | rfl | rfl | rfl | rfl <;>
          exact .literal (by decide)
      · show Composed Shown (powerMessage inspection)
        unfold powerMessage
        split <;> exact .literal (by decide)

/-- The warranty stage shows the savings. -/
theorem Protection.composed_message {warranty : Warranty} {savings : Float}
    (hfinite : ∀ x, isFinite x = true → Shown x) (hsavings : Shown savings)
    (hf : f ∈ (assess warranty savings).findings) :
    Composed Shown f.message := by
  have hscore : Composed Shown (Vocabulary.word warranty.score) := by
    cases warranty.score <;> exact .literal (by decide)
  have hlabor : Composed Shown (if warranty.laborIncluded then "included" else "excluded") := by
    split <;> exact .literal (by decide)
  have hsavings := Composed.number hsavings 0
  have hcount := Composed.number (hfinite Threshold.repairCostMultiplier (by decide)) 0
  have hfloor := Composed.number (hfinite Threshold.repairSavingsFloor (by decide)) 0
  -- the stage leaves some of its findings out, so all that it may have are looked at
  have hmem := (findings_assess_sublist warranty savings).subset hf
  simp only [candidates, List.mem_cons, List.not_mem_nil, or_false] at hmem
  rcases hmem with rfl | rfl | rfl | rfl
  · refine .append (.append (.append (.append (.append (.append ?_ hscore) ?_) (.nat _)) ?_) hlabor)
      ?_ <;>
      exact .literal (by decide)
  · have hrepairs : Composed Shown (Decimal.fixed 0 Threshold.repairCostMultiplier ++ " typical repairs ($"
        ++ Decimal.fixed 0 Threshold.repairSavingsFloor ++ ")") := by
      refine .append (.append (.append hcount ?_) hfloor) ?_ <;> exact .literal (by decide)
    show Composed Shown (repairMessage savings)
    unfold repairMessage
    dsimp only
    split
    · refine .append (.append (.append (.append ?_ hsavings) ?_) hrepairs) ?_ <;>
        exact .literal (by decide)
    · refine .append (.append (.append (.append ?_ hsavings) ?_) hrepairs) ?_ <;>
        exact .literal (by decide)
  · exact .literal (by decide)
  · exact .literal (by decide)

/-- The return stage shows the fee. -/
theorem Recourse.composed_message {policy : ReturnPolicy} {warranty : Warranty}
    (hfee : Shown policy.restockingFeePercent) (hf : f ∈ (assess policy warranty).findings) :
    Composed Shown f.message := by
  have hrating : ∀ rating : ReturnRating, Composed Shown (Vocabulary.word rating) := by
    intro rating
    cases rating <;> exact .literal (by decide)
  have hfee := Composed.number hfee 0
  have hmem := (findings_assess_sublist policy warranty).subset hf
  simp only [candidates, List.mem_cons, List.not_mem_nil, or_false] at hmem
  rcases hmem with rfl | rfl | rfl | rfl | rfl
  · exact .literal (by decide)
  · exact .literal (by decide)
  · refine .append (.append (.append ?_ (.nat _)) ?_) ?_ <;> exact .literal (by decide)
  · refine .append (.append (.append ?_ hfee) ?_) ?_ <;> exact .literal (by decide)
  · exact .append (.literal (by decide)) (hrating _)

/-- The negotiation stage shows the target price and what is usual. -/
theorem Bargaining.composed_message (deal : Deal) (tier : DamageTier) (price : Price)
    (htarget : Shown (target deal.appliance.retailPrice price.expectedDiscount))
    (hminimum : Shown price.expectedDiscount.1) (hmaximum : Shown price.expectedDiscount.2)
    (hf : f ∈ (assess deal tier price).findings) : Composed Shown f.message := by
  have hkind : ∀ kind : RetailerKind, Composed Shown (Vocabulary.word kind) := by
    intro kind
    cases kind <;> exact .literal (by decide)
  have hodds : ∀ odds : Odds, Composed Shown (Vocabulary.word odds) := by
    intro odds
    cases odds <;> exact .literal (by decide)
  have htarget := Composed.number htarget 0
  have hminimum := Composed.number hminimum 0
  have hmaximum := Composed.number hmaximum 0
  simp only [assess, List.mem_cons, List.not_mem_nil, or_false] at hf
  rcases hf with rfl | rfl | rfl
  · show Composed Shown (feasibilityMessage _)
    unfold feasibilityMessage
    split
    · exact .append (hkind _) (.literal (by decide))
    · exact .literal (by decide)
  · show Composed Shown (oddsMessage _ _)
    unfold oddsMessage
    refine .append (.append (.append (.append ?_ (.nat _)) ?_) (hodds _)) ?_ <;>
      exact .literal (by decide)
  · show Composed Shown (targetMessage _ _)
    unfold targetMessage
    refine .append (.append (.append (.append (.append (.append ?_ htarget) ?_) hminimum) ?_) hmaximum) ?_ <;>
      exact .literal (by decide)

theorem Delivery.composed_message {appliance : Appliance} {installation : Installation}
    (hf : f ∈ (assess appliance installation).findings) : Composed Shown f.message := by
  have hkind : ∀ kind : ApplianceKind, Composed Shown (Vocabulary.word kind) := by
    intro kind
    cases kind <;> exact .literal (by decide)
  -- one of the words ends like a name begins, so it is taken together with what follows
  have hplace : ∀ place : InstallationKind, Composed Shown (Vocabulary.word place ++ " installation of a ") := by
    intro place
    cases place <;> exact .joined (by decide)
  have hreason : ∀ kind place, Composed Shown (methodFor kind place).2 := by
    intro kind place
    rw [methodFor]
    split
    · exact .literal (by decide)
    · cases kind <;> exact .literal (by decide)
  have hmethod : ∀ method, Composed Shown (methodText method) := by
    intro method
    cases method <;> exact .literal (by decide)
  simp only [assess, List.mem_cons, List.not_mem_nil, or_false] at hf
  rcases hf with rfl | rfl | rfl
  · exact .append (.append (hmethod _) (.literal (by decide))) (hreason _ _)
  · refine .append (.append (.append (hkind _) ?_) (.nat _)) ?_ <;> exact .literal (by decide)
  · refine .append (.append (.append (.append (hplace _) (hkind _)) ?_) (.nat _)) ?_ <;>
      exact .literal (by decide)

theorem Verdict.composed_message {findings : List Finding} {tolerance : RiskTolerance}
    (hf : f ∈ (assess findings tolerance).findings) : Composed Shown f.message := by
  have htolerance : Composed Shown (Vocabulary.word tolerance) := by
    cases tolerance <;> exact .literal (by decide)
  -- here too a word ends like a name begins
  have hfront : ∀ recommendation : Recommendation,
      Composed Shown (Vocabulary.word recommendation ++ " from ") := by
    intro recommendation
    cases recommendation <;> exact .joined (by decide)
  obtain rfl := List.mem_singleton.mp hf
  show Composed Shown (recommendationMessage _ _ _ _)
  unfold recommendationMessage
  refine .append (.append (.append (.append (.append (.append (.append (.append (hfront _) (.nat _))
    ?_) (.nat _)) ?_) htolerance) ?_) (.nat _)) ?_ <;>
    exact .literal (by decide)

end Stages

/-! ## The messages of a deal -/

namespace Deal

variable {deal : Deal} {f : Finding}

/-- **The messages of a deal are composed**, and show its two prices, its fee, its savings, its discount, its target
price and constants. -/
theorem composed_message {Shown : Float → Prop} (hfinite : ∀ x, isFinite x = true → Shown x)
    (hretail : Shown deal.appliance.retailPrice) (hasking : Shown deal.appliance.askingPrice)
    (hfee : Shown deal.returnPolicy.restockingFeePercent) (hsavings : Shown deal.price.result.savings)
    (hpercent : Shown deal.price.result.discountPercent)
    (htarget : Shown (Bargaining.target deal.appliance.retailPrice
      deal.visibility.result.tier.expectedDiscount))
    {stage : Stage} (hf : f ∈ deal.findingsAt stage) : Composed Shown f.message := by
  obtain ⟨hminimum, hmaximum⟩ := Price.isFinite_expectedDiscount deal.visibility.result.tier
  cases stage with
  | damage => exact Visibility.composed_message hf
  | pricing => exact Price.composed_message deal.appliance _ hfinite hretail hasking hsavings hpercent hf
  | safety => exact Condition.composed_message hf
  | warranty => exact Protection.composed_message hfinite hsavings hf
  | returns => exact Recourse.composed_message hfee hf
  | negotiation =>
      exact Bargaining.composed_message deal _ deal.price.result htarget (hfinite _ hminimum)
        (hfinite _ hmaximum) hf
  | logistics => exact Delivery.composed_message hf
  | verdict => exact Verdict.composed_message hf

/-- **The messages of a deal show finite numbers only**, as long as its numbers are finite. -/
theorem seamless_message {timestamp : String} (hretail : isFinite deal.appliance.retailPrice = true)
    (hasking : isFinite deal.appliance.askingPrice = true)
    (hfee : isFinite deal.returnPolicy.restockingFeePercent = true)
    (hsavings : isFinite deal.price.result.savings = true)
    (hpercent : isFinite deal.price.result.discountPercent = true)
    (htarget : isFinite (Bargaining.target deal.appliance.retailPrice
      deal.visibility.result.tier.expectedDiscount) = true)
    (hf : f ∈ (deal.evaluate timestamp).trace.findings) : Seamless f.message := by
  rw [findings_trace_evaluate, findingsOf, List.mem_flatMap] at hf
  obtain ⟨stage, _, hf⟩ := hf
  exact (composed_message (fun _ h => h) hretail hasking hfee hsavings hpercent htarget hf).seamless

/-- Whatever the numbers of a deal are, its messages are composed of texts and numbers. -/
theorem composed_message_any {stage : Stage} (hf : f ∈ deal.findingsAt stage) :
    Composed (fun _ => True) f.message :=
  composed_message (fun _ _ => trivial) trivial trivial trivial trivial trivial trivial hf

end Deal

end Appraisal
