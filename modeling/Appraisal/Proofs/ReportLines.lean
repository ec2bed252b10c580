/-
What the report says of the four parts that may be skipped.

The report is a text, and what it says it says in lines. No message breaks a line, so the lines of the text are the
ones that it was put together from (`linesOf_text`), and every line can be told by its beginning. So it can be said
exactly which lines are about the warranties, the terms of return, a lower price and the delivery, and whether they
give a result or say that the part was skipped, and after which stage.

Three of the four parts are reported in either case. The delivery is reported if it was planned; if it was skipped,
the report does not say so.
-/
import Appraisal.Evaluation.Report
import Appraisal.Proofs.Gates
import Appraisal.Proofs.Messages
import Appraisal.Samples

set_option autoImplicit false

namespace Appraisal

open Text

/-! ## The lines of a text -/

/-- What stands between the line feeds of a text. -/
def Text.linesOf (text : String) : List String :=
  (text.toList.splitOn '\n').map String.ofList

/-- Lines that are closed by line feeds are read back, and behind the last line feed there is nothing. -/
theorem Text.linesOf_join {lines : List String} (hlines : ∀ line ∈ lines, IsOneLine line) :
    linesOf (String.join (lines.map (· ++ "\n"))) = lines ++ [""] := by
  induction lines with
  | nil => rfl
  | cons first rest ih =>
      obtain ⟨hfirst, hrest⟩ := List.forall_mem_cons.mp hlines
      have hfree : '\n' ∉ first.toList := fun hmem => (hfirst _ hmem).1 rfl
      have htext : (String.join ((first :: rest).map (· ++ "\n"))).toList
          = first.toList ++ '\n' :: (String.join (rest.map (· ++ "\n"))).toList := by
        rw [List.map_cons, String.join_cons, String.toList_append, String.toList_append, List.append_assoc]
        rfl
      rw [linesOf, htext, List.splitOn_append_cons_self_of_not_mem hfree, List.map_cons, String.ofList_toList,
        List.cons_append, ← ih hrest]
      rfl

theorem Text.prefix_append (front rest : String) : front.toList <+: (front ++ rest).toList := by
  rw [String.toList_append]
  exact List.prefix_append _ _

/-- Neither of two texts begins the other. -/
def Text.apart (text other : String) : Bool :=
  !text.toList.isPrefixOf other.toList && !other.toList.isPrefixOf text.toList

/-- A line begins with one of two such texts at most. -/
theorem Text.not_prefix_of_apart {text other line : String} (hapart : apart text other = true)
    (htext : text.toList <+: line.toList) : ¬other.toList <+: line.toList := by
  intro hother
  rw [apart, Bool.and_eq_true, Bool.not_eq_true', Bool.not_eq_true', ← Bool.not_eq_true, ← Bool.not_eq_true,
    List.isPrefixOf_iff_prefix, List.isPrefixOf_iff_prefix] at hapart
  rcases List.prefix_or_prefix_of_prefix htext hother with h | h
  · exact hapart.1 h
  · exact hapart.2 h

namespace Slot

variable {α : Type}

/-- The result of a stage that ran. -/
def result? : Slot α → Option α
  | evaluated value => some value
  | skipped .. => none

theorem isSome_result? (slot : Slot α) : slot.result?.isSome = slot.isEvaluated := by
  cases slot <;> rfl

/-- The gate after which a stage was skipped. -/
def skippedAfter? : Slot α → Option Stage
  | evaluated _ => none
  | skipped _ gate => some gate

theorem isSome_skippedAfter? (slot : Slot α) : slot.skippedAfter?.isSome = !slot.isEvaluated := by
  cases slot <;> rfl

end Slot

namespace Report

/-! ## Parts -/

/-- The parts of an evaluation that may be skipped. -/
inductive Part where
  | warranty | returns | negotiation | delivery
  deriving DecidableEq

namespace Part

/-- The parts in the order in which they are reported. -/
def order : List Part :=
  [.warranty, .returns, .negotiation, .delivery]

/-- What a part is called in the report. -/
def heading : Part → String
  | warranty => "Warranty"
  | returns => "Returns"
  | negotiation => "Negotiation"
  | delivery => "Delivery"

/-- What the lines about a part begin with. -/
def title : Part → String
  | warranty => "Warranty: "
  | returns => "Returns: "
  | negotiation => "Negotiation: "
  | delivery => "Delivery: "

theorem skippedLine_eq (part : Part) (stage : Stage) :
    skippedLine part.heading stage = part.title ++ ("skipped after " ++ stage.label) := by
  have hfront : part.heading ++ ": skipped after " = part.title ++ "skipped after " := by
    cases part <;> decide
  rw [skippedLine, hfront, String.append_assoc]

variable (out : Evaluation)

/-- Did the stage of the part run? -/
def isEvaluated : Part → Bool
  | warranty => out.protection.isEvaluated
  | returns => out.recourse.isEvaluated
  | negotiation => out.bargaining.isEvaluated
  | delivery => out.delivery.isEvaluated

/-- The gate after which the part was skipped. -/
def skippedAfter? : Part → Option Stage
  | warranty => out.protection.skippedAfter?
  | returns => out.recourse.skippedAfter?
  | negotiation => out.bargaining.skippedAfter?
  | delivery => out.delivery.skippedAfter?

/-- The line with the result of the part, if its stage ran. -/
def resultLine? : Part → Option String
  | warranty => out.protection.result?.map fun protection => warrantyLine (.evaluated protection)
  | returns => out.recourse.result?.map fun recourse => returnsLine (.evaluated recourse)
  | negotiation => out.bargaining.result?.map fun bargaining => negotiationLine (.evaluated bargaining)
  | delivery => out.delivery.result?.map fun delivery => "Delivery: " ++ delivery.reason

/-- The line that says that the part was skipped, which the delivery does not have. -/
def skipLine? (part : Part) : Option String :=
  if part = .delivery then none else (part.skippedAfter? out).map (skippedLine part.heading)

/-- The line is about the part. -/
def Heads (part : Part) (line : String) : Prop :=
  part.title.toList <+: line.toList

instance (part : Part) (line : String) : Decidable (part.Heads line) :=
  inferInstanceAs (Decidable (_ <+: _))

/-- The line is about the part and does not say that it was skipped. -/
def Tells (part : Part) (line : String) : Prop :=
  part.Heads line ∧ ∀ stage, line ≠ skippedLine part.heading stage

end Part

/-- The lines that are not about one of the four parts. -/
def otherLines (out : Evaluation) : List String :=
  verdictLines out.verdict ++ [priceLine out.price, damageLine out.visibility, safetyLine out.condition]

/-- The report is made of the other lines and at most one line for each part. -/
theorem lines_eq (out : Evaluation) :
    lines out = otherLines out
      ++ Part.order.flatMap fun part => (part.resultLine? out).toList ++ (part.skipLine? out).toList := by
  obtain ⟨verdict, price, visibility, protection, condition, bargaining, delivery, recourse, trace⟩ := out
  cases protection <;> cases recourse <;> cases bargaining <;> cases delivery <;> rfl

/-! ## Telling lines apart -/

/-- What the other lines begin with. -/
def otherFronts : List String :=
  ["Recommendation: ", "  ", "Price: $", "Damage: tier ", "Safety: not inspected. ", "Safety: passed (",
    "Safety: FAILED - "]

theorem exists_front_of_mem_otherLines (out : Evaluation) :
    ∀ line ∈ otherLines out, ∃ front ∈ otherFronts, front.toList <+: line.toList := by
  simp only [otherLines, verdictLines, List.cons_append, List.nil_append, List.forall_mem_cons,
    List.not_mem_nil, false_implies, implies_true, and_true]
  refine ⟨?_, ?_, ?_, ?_, ?_⟩
  · simp only [String.append_assoc]
    exact ⟨_, by simp [otherFronts], prefix_append _ _⟩
  · exact ⟨_, by simp [otherFronts], prefix_append _ _⟩
  · unfold priceLine
    simp only [String.append_assoc]
    exact ⟨_, by simp [otherFronts], prefix_append _ _⟩
  · unfold damageLine
    simp only [String.append_assoc]
    exact ⟨_, by simp [otherFronts], prefix_append _ _⟩
  · unfold safetyLine
    split
    · exact ⟨_, by simp [otherFronts], prefix_append _ _⟩
    · split
      · rw [String.append_assoc]
        exact ⟨_, by simp [otherFronts], prefix_append _ _⟩
      · exact ⟨_, by simp [otherFronts], prefix_append _ _⟩

namespace Part

variable {out : Evaluation} {part : Part} {line : String}

theorem not_heads_of_mem_otherLines (hline : line ∈ otherLines out) : ¬part.Heads line := by
  obtain ⟨front, hfront, hprefix⟩ := exists_front_of_mem_otherLines out line hline
  have hapart : ∀ front ∈ otherFronts, apart front part.title = true := by
    cases part <;> decide
  exact not_prefix_of_apart (hapart front hfront) hprefix

/-- A line is about one part. -/
theorem eq_of_heads {other : Part} (h : part.Heads line) (h' : other.Heads line) : part = other := by
  by_contra hne
  have hapart : apart part.title other.title = true := by
    revert hne
    cases part <;> cases other <;> decide
  exact not_prefix_of_apart hapart h h'

theorem heads_skippedLine (part : Part) (stage : Stage) : part.Heads (skippedLine part.heading stage) := by
  rw [Heads, skippedLine_eq]
  exact prefix_append _ _

theorem skippedLine_inj {stage stage' : Stage}
    (h : skippedLine part.heading stage = skippedLine part.heading stage') : stage = stage' := by
  rw [skippedLine, skippedLine, String.append_right_inj] at h
  exact Vocabulary.word_inj _ _ h

theorem skipLine?_eq_some_iff {stage : Stage} :
    part.skipLine? out = some (skippedLine part.heading stage)
      ↔ part ≠ .delivery ∧ part.skippedAfter? out = some stage := by
  rw [skipLine?]
  split_ifs with hdelivery
  · exact iff_of_false (fun h => nomatch h) fun h => h.1 hdelivery
  · rw [Option.map_eq_some_iff, and_iff_right hdelivery]
    constructor
    · rintro ⟨gate, hgate, hline⟩
      rwa [skippedLine_inj hline] at hgate
    · intro hstage
      exact ⟨stage, hstage, rfl⟩

/-- There is a result exactly if the stage of the part ran. -/
theorem isSome_resultLine? (out : Evaluation) (part : Part) :
    (part.resultLine? out).isSome = part.isEvaluated out := by
  cases part <;> rw [resultLine?, Option.isSome_map, Slot.isSome_result?] <;> rfl

theorem isSome_skippedAfter? (out : Evaluation) (part : Part) :
    (part.skippedAfter? out).isSome = !part.isEvaluated out := by
  cases part <;> exact Slot.isSome_skippedAfter? _

/-- A line about a part that goes on unlike the one about a skipped part does. -/
theorem tells_of_apart {front rest : String} (hfront : front.toList <+: rest.toList)
    (hapart : apart front "skipped after " = true) : part.Tells (part.title ++ rest) := by
  refine ⟨prefix_append _ _, fun stage hline => ?_⟩
  rw [skippedLine_eq, String.append_right_inj] at hline
  rw [hline] at hfront
  exact not_prefix_of_apart hapart hfront (prefix_append _ _)

/-- The same for a fixed text, letter by letter. -/
theorem tells_literal {cs : List Char}
    (h : (!cs.isPrefixOf "skipped after ".toList && !"skipped after ".toList.isPrefixOf cs) = true) :
    part.Tells (part.title ++ String.ofList cs) := by
  refine tells_of_apart (List.prefix_refl _) ?_
  rwa [apart, String.toList_ofList]

end Part

/-- The lines of the report that are about a part. -/
theorem Part.mem_lines_iff {out : Evaluation} {part : Part} {line : String} (hheads : part.Heads line)
    (hresults : ∀ other line, Part.resultLine? out other = some line → other.Heads line) :
    line ∈ lines out ↔ part.resultLine? out = some line ∨ part.skipLine? out = some line := by
  have hskips : ∀ other line, Part.skipLine? out other = some line → other.Heads line := by
    intro other line hline
    rw [skipLine?] at hline
    split_ifs at hline
    obtain ⟨stage, -, rfl⟩ := Option.map_eq_some_iff.mp hline
    exact other.heads_skippedLine stage
  rw [lines_eq, List.mem_append, List.mem_flatMap]
  constructor
  · rintro (hother | ⟨other, -, hline⟩)
    · exact absurd hheads (not_heads_of_mem_otherLines hother)
    · rw [List.mem_append, Option.mem_toList, Option.mem_toList] at hline
      obtain rfl : other = part := eq_of_heads (hline.elim (hresults other line) (hskips other line)) hheads
      exact hline
  · intro hline
    refine Or.inr ⟨part, by cases part <;> simp [order], ?_⟩
    rwa [List.mem_append, Option.mem_toList, Option.mem_toList]

end Report

/-! ## The report on a deal -/

namespace Deal

open Report

variable (deal : Deal) (timestamp : String)

/-- The delivery is planned in one way only. -/
theorem delivery_of_result? {delivery : Delivery}
    (h : (deal.evaluate timestamp).delivery.result? = some delivery) : delivery = deal.delivery.result := by
  rcases deal.evaluate_cases timestamp with ⟨blocker, -, heq⟩ | ⟨blocker, -, -, heq⟩ | ⟨-, -, heq⟩ <;> rw [heq] at h
  · exact nomatch h
  · exact nomatch h
  · exact (Option.some.inj h).symm

/-- A result says something of its part, and nothing about skipping. -/
theorem tells_resultLine {part : Part} {line : String}
    (hline : part.resultLine? (deal.evaluate timestamp) = some line) : part.Tells line := by
  cases part with
  | warranty =>
      obtain ⟨protection, -, rfl⟩ := Option.map_eq_some_iff.mp hline
      unfold warrantyLine
      simp only [String.append_assoc]
      refine Part.tells_of_apart (prefix_append _ _) ?_
      cases protection.score <;> decide
  | returns =>
      obtain ⟨recourse, -, rfl⟩ := Option.map_eq_some_iff.mp hline
      show Part.returns.Tells (Part.returns.title ++ Vocabulary.word recourse.rating)
      cases recourse.rating <;> exact Part.tells_literal (by decide)
  | negotiation =>
      obtain ⟨bargaining, -, rfl⟩ := Option.map_eq_some_iff.mp hline
      unfold negotiationLine
      dsimp only
      split
      · simp only [String.append_assoc]
        refine Part.tells_of_apart (prefix_append _ _) ?_
        cases bargaining.odds <;> decide
      · have hline : "Negotiation: unlikely at this retailer"
            = Part.negotiation.title ++ "unlikely at this retailer" := by decide
        rw [hline]
        exact Part.tells_literal (by decide)
  | delivery =>
      -- the reason of a delivery may be any text; of the one that was planned it is one of a few
      obtain ⟨delivery, hdelivery, rfl⟩ := Option.map_eq_some_iff.mp hline
      obtain rfl := deal.delivery_of_result? timestamp hdelivery
      have hreason : ∀ kind place, Part.delivery.Tells (Part.delivery.title ++ (Delivery.methodFor kind place).2) := by
        intro kind place
        rw [Delivery.methodFor]
        split
        · exact Part.tells_literal (by decide)
        · cases kind <;> exact Part.tells_literal (by decide)
      exact hreason _ _

/-- A part was skipped after the gate that halted the evaluation. -/
theorem skippedAfter?_eq_some_iff {part : Part} {stage : Stage} :
    part.skippedAfter? (deal.evaluate timestamp) = some stage
      ↔ part.isEvaluated (deal.evaluate timestamp) = false
        ∧ (deal.evaluate timestamp).trace.haltedAt = some stage := by
  rcases deal.evaluate_cases timestamp with ⟨blocker, -, heq⟩ | ⟨blocker, -, -, heq⟩ | ⟨-, -, heq⟩ <;> rw [heq]
  · cases part <;> exact ⟨fun h => ⟨rfl, h⟩, fun h => h.2⟩
  · cases part
    case negotiation | delivery => exact ⟨fun h => ⟨rfl, h⟩, fun h => h.2⟩
    case warranty | returns => exact iff_of_false (fun h => nomatch h) fun h => nomatch h.1
  · cases part <;> exact iff_of_false (fun h => nomatch h) fun h => nomatch h.1

/-! ### One line each -/

theorem exists_stage_of_mem_grounds {f : Finding} (hf : f ∈ deal.grounds) : ∃ stage, f ∈ deal.findingsAt stage := by
  simp only [grounds, List.mem_append] at hf
  rcases hf with (((((hf | hf) | hf) | hf) | hf) | hf) | hf
  · exact ⟨.damage, hf⟩
  · exact ⟨.pricing, hf⟩
  · exact ⟨.safety, hf⟩
  · exact ⟨.warranty, hf⟩
  · exact ⟨.returns, hf⟩
  · exact ⟨.negotiation, hf⟩
  · exact ⟨.logistics, hf⟩

/-- The summary of a verdict is made of messages. -/
theorem composed_summary : Composed (fun _ => True) (deal.evaluate timestamp).verdict.summary := by
  have hwalkAway : ∀ {f : Finding} {stage : Stage}, f ∈ deal.findingsAt stage →
      Composed (fun _ => True) (Verdict.walkAwaySummary (some f)) :=
    fun hf => .append (.literal (by decide)) (composed_message_any hf)
  -- after a halt the summary quotes the blocker; otherwise the verdict says which findings it quotes
  cases hhalt : deal.halt? with
  | some halt =>
      obtain ⟨gate, blocker⟩ := halt
      rw [verdict_evaluate_of_some _ _ hhalt]
      have hblocker : deal.stopAt gate = some blocker := by
        rcases stopAt_of_halt? _ hhalt with ⟨rfl, h⟩ | ⟨rfl, -, h⟩
        · exact h
        · exact h
      exact hwalkAway (List.mem_of_find?_eq_some hblocker)
  | none =>
      have hreasons : Composed (fun _ => True)
          ("; ".intercalate ((Verdict.warningsIn deal.grounds).map Finding.message)) := by
        refine .intercalate (.literal (by decide)) fun text htext => ?_
        obtain ⟨f, hf, rfl⟩ := List.mem_map.mp htext
        obtain ⟨stage, hf⟩ := deal.exists_stage_of_mem_grounds (List.mem_of_mem_filter hf)
        exact composed_message_any hf
      rw [verdict_evaluate_of_none _ _ hhalt]
      show Composed _ (Verdict.summarize (Verdict.recommend _ _ _) (Verdict.blockersIn deal.grounds).head? _)
      generalize Verdict.recommend _ _ _ = recommendation
      cases recommendation with
      | walkAway =>
          cases hblocker : (Verdict.blockersIn deal.grounds).head? with
          | none => exact .literal (by decide)
          | some blocker =>
              have hf := List.mem_of_mem_filter (List.mem_of_mem_head? hblocker)
              obtain ⟨stage, hf⟩ := deal.exists_stage_of_mem_grounds hf
              exact hwalkAway hf
      | skip => exact .append (.literal (by decide)) hreasons
      | proceedWithCaution => exact .append (.literal (by decide)) hreasons
      | proceed => exact .literal (by decide)

end Deal

namespace Report

theorem composed_skippedLine {part : String} (hpart : Composed (fun _ => True) part) (stage : Stage) :
    Composed (fun _ => True) (skippedLine part stage) := by
  refine .append (.append hpart (.literal (by decide))) ?_
  cases stage <;> exact .literal (by decide)

theorem composed_priceLine (price : Price) : Composed (fun _ => True) (priceLine price) := by
  have hrating : Composed (fun _ => True) (Vocabulary.word price.rating) := by
    cases price.rating <;> exact .literal (by decide)
  have hwhole : ∀ x, Composed (fun _ => True) (Price.whole x) := fun x => .number trivial 0
  have htenth : Composed (fun _ => True) (Price.tenth price.discountPercent) := .number trivial 1
  unfold priceLine
  refine .append (.append (.append (.append (.append (.append (.append (.append (.append (.append (.append ?_
    (hwhole _)) ?_) (hwhole _)) ?_) htenth) ?_) hrating) ?_) (hwhole _)) ?_) (hwhole _) <;>
    exact .literal (by decide)

-- the advice to inspect the unit is a long text
set_option maxRecDepth 2000 in
theorem composed_safetyLine (inspection : Option Inspection) :
    Composed (fun _ => True) (safetyLine (Condition.assess inspection).result) := by
  cases inspection with
  | none => exact .append (.literal (by decide)) (.literal (by decide))
  | some inspection =>
      unfold safetyLine
      show Composed _ (if _ then _ else _)
      split
      · refine .append (.append ?_ (.nat _)) ?_ <;> exact .literal (by decide)
      · refine .append (.literal (by decide)) (.intercalate (.literal (by decide)) fun text htext => ?_)
        obtain ⟨check, hcheck, rfl⟩ := List.mem_map.mp htext
        have hmem := List.mem_of_mem_filter hcheck
        simp only [Condition.checks, List.mem_cons, List.not_mem_nil, or_false] at hmem
        rcases hmem with rfl | rfl | rfl | rfl | rfl | rfl | rfl <;> exact .literal (by decide)

theorem composed_warrantyLine (slot : Slot Protection) : Composed (fun _ => True) (warrantyLine slot) := by
  cases slot with
  | evaluated protection =>
      have hscore : Composed (fun _ => True) (Vocabulary.word protection.score) := by
        cases protection.score <;> exact .literal (by decide)
      have hrisk : Composed (fun _ => True) (riskText protection.risk) := by
        cases protection.risk <;> exact .literal (by decide)
      refine .append (.append (.append (.append ?_ hscore) ?_) hrisk) ?_ <;> exact .literal (by decide)
  | skipped placeholder gate => exact composed_skippedLine (.literal (by decide)) gate

theorem composed_returnsLine (slot : Slot Recourse) : Composed (fun _ => True) (returnsLine slot) := by
  cases slot with
  | evaluated recourse =>
      have hrating : Composed (fun _ => True) (Vocabulary.word recourse.rating) := by
        cases recourse.rating <;> exact .literal (by decide)
      exact .append (.literal (by decide)) hrating
  | skipped placeholder gate => exact composed_skippedLine (.literal (by decide)) gate

theorem composed_negotiationLine (slot : Slot Bargaining) : Composed (fun _ => True) (negotiationLine slot) := by
  cases slot with
  | evaluated bargaining =>
      have hodds : Composed (fun _ => True) (Vocabulary.word bargaining.odds) := by
        cases bargaining.odds <;> exact .literal (by decide)
      have htarget : Composed (fun _ => True) (Price.whole bargaining.targetPrice) := .number trivial 0
      unfold negotiationLine
      dsimp only
      split
      · refine .append (.append (.append ?_ hodds) ?_) htarget <;> exact .literal (by decide)
      · exact .literal (by decide)
  | skipped placeholder gate => exact composed_skippedLine (.literal (by decide)) gate

theorem composed_deliveryReason (kind : ApplianceKind) (place : InstallationKind) :
    Composed (fun _ => True) (Delivery.methodFor kind place).2 := by
  rw [Delivery.methodFor]
  split
  · exact .literal (by decide)
  · cases kind <;> exact .literal (by decide)

end Report

namespace Deal

open Report

variable (deal : Deal) (timestamp : String)

/-- Every line of the report is one line. -/
theorem isOneLine_of_mem_lines : ∀ line ∈ lines (deal.evaluate timestamp), IsOneLine line := by
  suffices hlines : ∀ line ∈ lines (deal.evaluate timestamp), Composed (fun _ => True) line from
    fun line hline => (hlines line hline).isOneLine
  have hwords : ∀ verdict : Verdict, Composed (fun _ => True) ("Recommendation: "
      ++ Vocabulary.word verdict.recommendation ++ " (" ++ confidenceText verdict.confidence ++ " confidence)") := by
    intro verdict
    -- one of the words ends like a name begins, so it is taken together with what follows
    have hfront : Composed (fun _ => True)
        ("Recommendation: " ++ Vocabulary.word verdict.recommendation ++ " (") := by
      cases verdict.recommendation <;> exact .joined (by decide)
    have hconfidence : Composed (fun _ => True) (confidenceText verdict.confidence) := by
      cases verdict.confidence <;> exact .literal (by decide)
    exact .append (.append hfront hconfidence) (.literal (by decide))
  have hdamage : Composed (fun _ => True) (damageLine deal.visibility.result) := by
    have hlabel : Composed (fun _ => True) deal.visibility.result.tierLabel := by
      show Composed _ (Visibility.tierOf deal.damage).label
      cases Visibility.tierOf deal.damage <;> exact .literal (by decide)
    have hvisible : ∀ acceptable : Bool,
        Composed (fun _ => True) (if acceptable then "" else ", visible once installed") := by
      intro acceptable
      cases acceptable <;> exact .literal (by decide)
    unfold damageLine
    refine .append (.append (.append (.append (.append ?_ (.nat _)) ?_) hlabel) ?_) (hvisible _) <;>
      exact .literal (by decide)
  have hdelivery : ∀ line ∈ deliveryLines (deal.evaluate timestamp).delivery, Composed (fun _ => True) line := by
    intro line hline
    cases hslot : (deal.evaluate timestamp).delivery with
    | evaluated delivery =>
        rw [hslot] at hline
        have hresult : (deal.evaluate timestamp).delivery.result? = some delivery := by rw [hslot]; rfl
        obtain rfl := deal.delivery_of_result? timestamp hresult
        rw [List.mem_singleton.mp hline]
        exact .append (.literal (by decide)) (composed_deliveryReason _ _)
    | skipped placeholder gate =>
        rw [hslot] at hline
        exact absurd hline List.not_mem_nil
  rw [lines, verdictLines, visibility_evaluate, condition_evaluate]
  simp only [List.forall_mem_append, List.forall_mem_cons, List.not_mem_nil, false_implies, implies_true, and_true]
  exact ⟨⟨⟨hwords _, .append (.literal (by decide)) (deal.composed_summary timestamp)⟩, composed_priceLine _, hdamage,
    composed_safetyLine _, composed_warrantyLine _, composed_returnsLine _, composed_negotiationLine _⟩, hdelivery⟩

/-- **The lines of the report are the ones that it is put together from.** -/
theorem linesOf_text :
    linesOf (Report.text (deal.evaluate timestamp)) = lines (deal.evaluate timestamp) ++ [""] :=
  linesOf_join (deal.isOneLine_of_mem_lines timestamp)

/-- The lines of the report that are about a part. -/
theorem mem_linesOf_text_iff {part : Part} {line : String} (hheads : part.Heads line) :
    line ∈ linesOf (Report.text (deal.evaluate timestamp))
      ↔ part.resultLine? (deal.evaluate timestamp) = some line
        ∨ part.skipLine? (deal.evaluate timestamp) = some line := by
  have hnonempty : line ≠ "" := by
    rintro rfl
    revert hheads
    cases part <;> decide
  rw [linesOf_text, List.mem_append, List.mem_singleton, or_iff_left hnonempty]
  exact Part.mem_lines_iff hheads fun _ _ hline => (deal.tells_resultLine timestamp hline).1

/-- **What the report says of the four parts that may be skipped.** A line says that a part was skipped after a gate
exactly if the part was skipped and the evaluation was halted at that gate, and there is such a line whenever a part
was skipped. The delivery is the exception, of which no line says so. A line says something else of a part exactly
if its stage ran, and what it says is the result. -/
theorem report_on_parts (part : Part) :
    let out := deal.evaluate timestamp
    let lines := linesOf (Report.text out)
    (∀ stage, skippedLine part.heading stage ∈ lines
        ↔ part ≠ .delivery ∧ part.isEvaluated out = false ∧ out.trace.haltedAt = some stage)
      ∧ (part ≠ .delivery →
        (part.isEvaluated out = false ↔ ∃ stage, skippedLine part.heading stage ∈ lines))
      ∧ (part.isEvaluated out = true ↔ ∃ line ∈ lines, part.Tells line)
      ∧ ∀ line ∈ lines, part.Tells line → part.resultLine? out = some line := by
  intro out lines
  -- of the lines about a part, those that say that it was skipped are no results, and all others are
  have hskipped : ∀ stage, skippedLine part.heading stage ∈ lines
      ↔ part ≠ .delivery ∧ part.skippedAfter? out = some stage := by
    intro stage
    have hnoResult : part.resultLine? out ≠ some (skippedLine part.heading stage) :=
      fun hline => (deal.tells_resultLine timestamp hline).2 stage rfl
    rw [mem_linesOf_text_iff _ _ (part.heads_skippedLine stage), or_iff_right hnoResult, Part.skipLine?_eq_some_iff]
  have htold : ∀ line ∈ lines, part.Tells line → part.resultLine? out = some line := by
    rintro line hline ⟨hheads, hskip⟩
    refine ((deal.mem_linesOf_text_iff timestamp hheads).mp hline).resolve_right fun hskipped => ?_
    rw [Part.skipLine?] at hskipped
    split_ifs at hskipped
    obtain ⟨stage, -, rfl⟩ := Option.map_eq_some_iff.mp hskipped
    exact hskip stage rfl
  refine ⟨fun stage => ?_, fun hdelivery => ?_, ?_, htold⟩
  · rw [hskipped]
    exact and_congr_right fun _ => deal.skippedAfter?_eq_some_iff timestamp
  · rw [← Bool.not_eq_true', ← Part.isSome_skippedAfter?, Option.isSome_iff_exists]
    exact exists_congr fun stage => ((hskipped stage).trans (and_iff_right hdelivery)).symm
  · rw [← Part.isSome_resultLine?, Option.isSome_iff_exists]
    constructor
    · rintro ⟨line, hline⟩
      have htells := deal.tells_resultLine timestamp hline
      exact ⟨line, (deal.mem_linesOf_text_iff timestamp htells.1).mpr (Or.inl hline), htells⟩
    · rintro ⟨line, hline, htells⟩
      exact ⟨line, htold line hline htells⟩

/-- The delivery of the stained washer was skipped after the first gate. The report says so of the warranties, and
has no line about the delivery at all. -/
theorem stainedWasher_delivery_missing :
    let out := Sample.stainedWasher.deal.evaluate "2025-06-01T12:00:00Z"
    let lines := linesOf (Report.text out)
    Part.delivery.isEvaluated out = false ∧ out.trace.haltedAt = some .safety
      ∧ "Warranty: skipped after SafetyGate" ∈ lines
      ∧ ∀ line ∈ lines, ¬Part.delivery.Heads line := by
  intro out lines
  obtain ⟨blocker, hsafety⟩ : ∃ blocker, Sample.stainedWasher.deal.stopAt .safety = some blocker := by
    rw [← Option.isSome_iff_exists, isSome_stopAt_safety]
    decide
  have hout : out = Sample.stainedWasher.deal.haltedAt "2025-06-01T12:00:00Z" .safety blocker (Stage.order.take 3)
      (.skipped .placeholder .safety) (.skipped .placeholder .safety) := by
    change Deal.evaluate _ _ = _
    rw [evaluate_eq, hsafety]
  have hmem : ∀ {part : Part} {line : String}, part.Heads line →
      (line ∈ lines ↔ part.resultLine? out = some line ∨ part.skipLine? out = some line) :=
    fun hheads => Sample.stainedWasher.deal.mem_linesOf_text_iff "2025-06-01T12:00:00Z" hheads
  rw [hout] at hmem ⊢
  refine ⟨rfl, rfl, (hmem (by decide : Part.warranty.Heads _)).mpr (Or.inr rfl), fun line hline hheads => ?_⟩
  rcases (hmem hheads).mp hline with h | h
  · exact nomatch h
  · exact nomatch h

end Deal

end Appraisal
