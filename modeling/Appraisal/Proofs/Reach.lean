/-
How far each entry of a request reaches.

A request is a form to fill in, and most of its entries are there for one thing only. The brand and the model
are there to tell one deal from another, the kinds of the appliance and of the installation to plan the
delivery, the retailer to judge the room for a lower price. For each of these entries the passages of an
evaluation that may depend on it are listed, and nothing outside the list ever changes with the entry,
whichever way the evaluation ends.

The fingerprint is in every list but that of the timestamp, which is no part of the deal.
-/
import Appraisal.Desk
import Appraisal.Proofs.Outside

set_option autoImplicit false

namespace Appraisal

/-- The evaluation of a request. -/
def Request.evaluation (request : Request) : Evaluation :=
  request.deal.evaluate request.options.timestamp

/-! ## Power and fees

Two stages read what most of their findings do not: whether the appliance powers on, and the fee. -/

namespace Condition

variable (powersOn : Bool) (found : Inspection)

/-- No check is about power but the one that is made apart from the others. -/
theorem isFlagged_powersOn :
    ∀ check ∈ checks, check.isFlagged { found with powersOn } = check.isFlagged found := by
  simp only [checks, List.forall_mem_cons, List.not_mem_nil, false_implies, implies_true, and_self]

theorem blockersOf_powersOn : blockersOf { found with powersOn } = blockersOf found := by
  rw [blockersOf, blockersOf]
  refine congrArg _ (List.filter_congr fun check hcheck => ?_)
  rw [isFlagged_powersOn powersOn found check hcheck]

/-- Whether the appliance powers on is told in the warnings, and by a finding of its own. -/
theorem outside_assess_powersOn {struck : List Passage} (hwarnings : .safetyWarnings ∈ struck)
    (hfinding : .finding Rule.powerOn.id ∈ struck) (inspection : Option Inspection) :
    let changed := inspection.map fun found => { found with powersOn }
    (assess changed).result.outside struck = (assess inspection).result.outside struck
      ∧ Finding.allOutside struck (assess changed).findings
        = Finding.allOutside struck (assess inspection).findings := by
  cases inspection with
  | none => exact ⟨rfl, rfl⟩
  | some found =>
      have hresult : (assess (some { found with powersOn })).result
          = { (assess (some found)).result with
              warnings := (assess (some { found with powersOn })).result.warnings } := by
        simp only [assess, blockersOf_powersOn]
      have hchecks : checks.map (·.finding { found with powersOn }) = checks.map (·.finding found) := by
        refine List.map_congr_left fun check hcheck => ?_
        rw [Check.finding, Check.finding, Check.message, Check.message,
          isFlagged_powersOn powersOn found check hcheck]
      have hpower : ∀ found, Finding.allOutside struck [powerFinding found] = [] :=
        fun _ => Finding.allOutside_singleton_of_struck hfinding
      refine ⟨?_, ?_⟩
      · rw [Option.map_some, hresult, outside_warnings hwarnings]
      · rw [Option.map_some, assess, assess, Finding.allOutside_append, Finding.allOutside_append, hchecks,
          hpower, hpower]

end Condition

/-- A fee is told by a finding of its own, and rated. -/
theorem Recourse.allOutside_assess_fee {struck : List Passage}
    (hfee : .finding Rule.restockingFee.id ∈ struck) (hrating : .finding Rule.returnRating.id ∈ struck)
    (policy : ReturnPolicy) (warranty : Warranty) (restockingFeePercent : Float) :
    Finding.allOutside struck (assess { policy with restockingFeePercent } warranty).findings
      = Finding.allOutside struck (assess policy warranty).findings := by
  -- the finding about the fee comes and goes with it, so it is the list of it that is struck out
  have hfees : ∀ policy : ReturnPolicy,
      Finding.allOutside struck (if policy.hasFee then [feeFinding policy] else []) = [] := by
    intro policy
    split
    · exact Finding.allOutside_singleton_of_struck hfee
    · rfl
  have hratings : ∀ rating, Finding.allOutside struck [ratingFinding rating] = [] :=
    fun _ => Finding.allOutside_singleton_of_struck hrating
  simp only [assess, Finding.allOutside_append, hfees, hratings]
  rfl

/-! ## Entries -/

/-- An entry of a request that reaches only some passages of its evaluation. -/
inductive Entry where
  | brand | model | purpose | timestamp
  | partsIncluded | extendedAvailable | priceFlexibility
  | marks | severity | retailer
  | applianceKind | installationKind
  | restockingFee | powersOn | riskTolerance

namespace Entry

/-- What can be entered. -/
def Value : Entry → Type
  | brand | model | timestamp => String
  | purpose => Purpose
  | partsIncluded | extendedAvailable | powersOn => Bool
  | priceFlexibility => PriceFlexibility
  | marks => Selection Mark
  | severity => DamageSeverity
  | retailer => Retailer
  | applianceKind => ApplianceKind
  | installationKind => InstallationKind
  | restockingFee => Float
  | riskTolerance => RiskTolerance

/-- The deal with an entry changed. The timestamp is no part of it, and that the appliance powers on can be
entered only if somebody looked at it. -/
def putDeal : (entry : Entry) → entry.Value → Deal → Deal
  | brand, value, deal => { deal with appliance := { deal.appliance with brand := value } }
  | model, value, deal => { deal with appliance := { deal.appliance with model := value } }
  | purpose, value, deal => { deal with buyer := { deal.buyer with purpose := value } }
  | timestamp, _, deal => deal
  | partsIncluded, value, deal => { deal with warranty := { deal.warranty with partsIncluded := value } }
  | extendedAvailable, value, deal =>
    { deal with warranty := { deal.warranty with extendedAvailable := value } }
  | priceFlexibility, value, deal => { deal with buyer := { deal.buyer with priceFlexibility := value } }
  | marks, value, deal => { deal with damage := { deal.damage with marks := value } }
  | severity, value, deal => { deal with damage := { deal.damage with severity := value } }
  | retailer, value, deal => { deal with retailer := value }
  | applianceKind, value, deal => { deal with appliance := { deal.appliance with kind := value } }
  | installationKind, value, deal =>
    { deal with installation := { deal.installation with kind := value } }
  | restockingFee, value, deal =>
    { deal with returnPolicy := { deal.returnPolicy with restockingFeePercent := value } }
  | powersOn, value, deal =>
    { deal with inspection := deal.inspection.map fun found => { found with powersOn := value } }
  | riskTolerance, value, deal => { deal with buyer := { deal.buyer with riskTolerance := value } }

/-- The timestamp with an entry changed. -/
def putTimestamp : (entry : Entry) → entry.Value → String → String
  | timestamp, value, _ => value
  | _, _, stamp => stamp

/-- The request with an entry changed. -/
def put (entry : Entry) (value : entry.Value) (request : Request) : Request where
  deal := entry.putDeal value request.deal
  options := ⟨entry.putTimestamp value request.options.timestamp⟩

/-- The passages of an evaluation that may depend on an entry. -/
def reach : Entry → List Passage
  | brand | model | purpose => [.fingerprint]
  | timestamp => [.timestamp]
  | partsIncluded => [.fingerprint, .coverageGaps]
  | extendedAvailable | priceFlexibility => [.fingerprint, .otherAsks]
  | marks => [.fingerprint, .leverage]
  | severity => [.fingerprint, .message Rule.damageTier.id]
  | retailer =>
    [.fingerprint, .bargaining, .message Rule.negotiable.id, .message Rule.negotiationOdds.id]
  | applianceKind | installationKind =>
    .fingerprint :: .delivery :: Stage.logistics.ruleIds.map .finding
  | restockingFee =>
    [.fingerprint, .recourse, .finding Rule.restockingFee.id, .finding Rule.returnRating.id]
  | powersOn => [.fingerprint, .safetyWarnings, .finding Rule.powerOn.id]
  | riskTolerance =>
    [.fingerprint, .recommendation, .summary, .skipThreshold, .message Rule.recommendation.id]

/-- No entry of these reaches a finding that could weigh in a verdict. -/
theorem areWeightless_reach (entry : Entry) : Passage.AreWeightless entry.reach := by
  cases entry <;> decide

/-! ## What the stages make of an entry -/

section Stages

variable (entry : Entry) (value : entry.Value) (deal : Deal)

-- For most entries a stage does not read what was changed at all, so that what it makes of the two deals is
-- the same by computation. The entries that a stage does read are the cases that are named.

theorem visibility_putDeal : (entry.putDeal value deal).visibility.result = deal.visibility.result := by
  cases entry <;> rfl

theorem price_putDeal : (entry.putDeal value deal).price = deal.price := by
  cases entry <;> rfl

theorem condition_putDeal :
    (entry.putDeal value deal).condition.result.outside entry.reach
      = deal.condition.result.outside entry.reach := by
  cases entry with
  | powersOn => exact (Condition.outside_assess_powersOn value (by decide) (by decide) deal.inspection).1
  | _ => rfl

theorem protection_putDeal :
    (entry.putDeal value deal).protection.result.outside entry.reach
      = deal.protection.result.outside entry.reach := by
  cases entry with
  | partsIncluded => exact Protection.outside_gaps (by decide) deal.protection.result _
  | _ => rfl

theorem recourse_putDeal :
    (entry.putDeal value deal).recourse.result.outside entry.reach
      = deal.recourse.result.outside entry.reach := by
  cases entry with
  | restockingFee => exact Recourse.outside_congr (by decide) _ _
  | _ => rfl

theorem bargaining_putDeal :
    (entry.putDeal value deal).bargaining.result.outside entry.reach
      = deal.bargaining.result.outside entry.reach := by
  cases entry with
  | retailer => exact Bargaining.outside_congr (by decide) _ _
  | marks => exact Bargaining.outside_leverage (by decide) deal.bargaining.result _
  | extendedAvailable => exact Bargaining.outside_otherAsks (by decide) deal.bargaining.result _
  | priceFlexibility => exact Bargaining.outside_otherAsks (by decide) deal.bargaining.result _
  | _ => rfl

theorem delivery_putDeal :
    (entry.putDeal value deal).delivery.result.outside entry.reach
      = deal.delivery.result.outside entry.reach := by
  cases entry with
  | applianceKind => exact Delivery.outside_congr (by decide) _ _
  | installationKind => exact Delivery.outside_congr (by decide) _ _
  | _ => rfl

/-- What is left of the findings in front of the verdict. -/
theorem findingsAt_putDeal (stage : Stage) (hstage : stage ≠ .verdict) :
    Finding.allOutside entry.reach ((entry.putDeal value deal).findingsAt stage)
      = Finding.allOutside entry.reach (deal.findingsAt stage) := by
  cases stage with
  | damage =>
      cases entry with
      | severity => exact Finding.allOutside_cons_congr (Rule.outside_finding (by decide) _ _ _ _ _) rfl
      | _ => rfl
  | pricing => exact congrArg (Finding.allOutside _ ∘ Assessed.findings) (entry.price_putDeal value deal)
  | safety =>
      cases entry with
      | powersOn => exact (Condition.outside_assess_powersOn value (by decide) (by decide) deal.inspection).2
      | _ => rfl
  | warranty => cases entry <;> rfl
  | returns =>
      cases entry with
      | restockingFee => exact Recourse.allOutside_assess_fee (by decide) (by decide) _ _ _
      | _ => rfl
  | negotiation =>
      cases entry with
      | retailer =>
          -- the target price is the one finding that does not speak of the retailer
          exact Finding.allOutside_cons_congr (Rule.outside_finding (by decide) _ _ _ _ _)
            (Finding.allOutside_cons_congr (Rule.outside_finding (by decide) _ _ _ _ _) rfl)
      | _ => rfl
  | logistics =>
      -- for the two kinds, whatever this stage finds is struck out
      have hstruck : ∀ deal : Deal,
          Finding.allOutside applianceKind.reach (deal.findingsAt .logistics) = [] := by
        intro deal
        refine Finding.allOutside_of_struck fun f hf => ?_
        have hid := (deal.map_ruleId_findingsAt_sublist .logistics).subset (List.mem_map_of_mem hf)
        exact List.mem_cons_of_mem _ (List.mem_cons_of_mem _ (List.mem_map_of_mem hid))
      cases entry with
      | applianceKind => exact (hstruck _).trans (hstruck _).symm
      | installationKind => exact (hstruck _).trans (hstruck _).symm
      | _ => rfl
  | verdict => exact absurd rfl hstage

theorem riskTolerance_putDeal :
    (entry.putDeal value deal).buyer.riskTolerance = deal.buyer.riskTolerance
      ∨ Passage.ofTolerance ⊆ entry.reach := by
  cases entry with
  | riskTolerance => exact Or.inr (List.subset_cons_self _ _)
  | _ => exact Or.inl rfl

theorem fingerprint_putDeal :
    .fingerprint ∈ entry.reach ∨ (entry.putDeal value deal).fingerprint = deal.fingerprint := by
  cases entry with
  | timestamp => exact Or.inr rfl
  | _ => exact Or.inl List.mem_cons_self

theorem putTimestamp_eq (stamp : String) :
    .timestamp ∈ entry.reach ∨ entry.putTimestamp value stamp = stamp := by
  cases entry with
  | timestamp => exact Or.inl List.mem_cons_self
  | _ => exact Or.inr rfl

/-- A deal with an entry changed agrees with the deal as it was outside the reach of the entry. -/
theorem agreeOutside_putDeal : Deal.AgreeOutside entry.reach (entry.putDeal value deal) deal where
  visibility := entry.visibility_putDeal value deal
  price := congrArg Assessed.result (entry.price_putDeal value deal)
  condition := entry.condition_putDeal value deal
  protection := entry.protection_putDeal value deal
  recourse := entry.recourse_putDeal value deal
  bargaining := entry.bargaining_putDeal value deal
  delivery := entry.delivery_putDeal value deal
  findings := entry.findingsAt_putDeal value deal
  tolerance := entry.riskTolerance_putDeal value deal
  fingerprint := entry.fingerprint_putDeal value deal

end Stages

/-! ## The whole evaluation -/

/-- **An entry reaches the passages that are listed for it, and no others.** Whatever is entered, and whether
the evaluation is halted at a gate or complete, outside the reach of the entry it stays the same. -/
theorem outside_reach_of_put (entry : Entry) (value : entry.Value) (request : Request) :
    (entry.put value request).evaluation.outside entry.reach
      = request.evaluation.outside entry.reach :=
  (entry.agreeOutside_putDeal value request.deal).evaluate entry.areWeightless_reach
    (entry.putTimestamp_eq value request.options.timestamp)

end Entry

end Appraisal
