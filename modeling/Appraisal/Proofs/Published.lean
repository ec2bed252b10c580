/-
Every finding is made with a published rule of the stage that makes it.

A stage goes through its rules in the order of the catalog and makes at most one finding with each of them.
So the rules that occur in what a stage found are a sublist of the rules of that stage. Identifiers are
never given twice, and therefore a finding says by its rule alone which stage made it.

The stages run in the order in which the catalog lists their rules, and so the findings of a whole trace are
in the order of the catalog as well. Whoever keeps a trace can look each of its findings up, by searching
the catalog or in the directory, and finds the rule as it was applied.
-/
import Mathlib.Data.List.Flatten
import Mathlib.Data.List.Forall2
import Mathlib.Data.List.Nodup
import Mathlib.Tactic.FinCases
import Appraisal.Proofs.Course
import Appraisal.Samples

set_option autoImplicit false

namespace Appraisal

/-! ## The catalog -/

/-- The finding carries the identifier and the severity of the rule. -/
def Finding.IsOf (f : Finding) (rule : Rule) : Prop :=
  f.ruleId = rule.id ∧ f.severity = rule.severity

theorem Finding.map_ruleId_of_isOf {findings : List Finding} {rules : List Rule}
    (h : List.Forall₂ IsOf findings rules) : findings.map ruleId = rules.map Rule.id := by
  induction h with
  | nil => rfl
  | cons hfirst _ ih => rw [List.map_cons, List.map_cons, hfirst.1, ih]

theorem Finding.exists_rule_of_mem {findings : List Finding} {rules : List Rule}
    (h : List.Forall₂ IsOf findings rules) {f : Finding} (hf : f ∈ findings) : ∃ rule ∈ rules, f.IsOf rule := by
  induction h with
  | nil => exact absurd hf List.not_mem_nil
  | @cons first rule _ _ hfirst _ ih =>
      rcases List.mem_cons.mp hf with rfl | hf
      · exact ⟨rule, List.mem_cons_self, hfirst⟩
      · obtain ⟨other, hother, hof⟩ := ih hf
        exact ⟨other, List.mem_cons_of_mem _ hother, hof⟩

/-- Findings chosen from candidates are made with the rules of those that were chosen. -/
theorem Finding.exists_sublist_isOf {findings candidates : List Finding} {rules : List Rule}
    (hchosen : findings.Sublist candidates) (h : List.Forall₂ IsOf candidates rules) :
    ∃ applied, List.Forall₂ IsOf findings applied ∧ applied.Sublist rules := by
  -- a candidate that was not chosen leaves its rule out
  induction hchosen generalizing rules with
  | slnil => exact ⟨[], List.Forall₂.nil, List.nil_sublist _⟩
  | cons _ _ ih =>
      obtain ⟨rule, rest, _, hrest, rfl⟩ := List.forall₂_cons_left_iff.mp h
      obtain ⟨applied, hof, hsublist⟩ := ih hrest
      exact ⟨applied, hof, hsublist.cons rule⟩
  | cons_cons _ _ ih =>
      obtain ⟨rule, rest, hfirst, hrest, rfl⟩ := List.forall₂_cons_left_iff.mp h
      obtain ⟨applied, hof, hsublist⟩ := ih hrest
      exact ⟨rule :: applied, List.Forall₂.cons hfirst hof, hsublist.cons_cons rule⟩

/-- No identifier is published twice. -/
theorem Rule.nodup_map_id_catalog : (catalog.map Rule.id).Nodup := by decide

/-- Entries are searched from the first one on. -/
theorem lookup_entry {α : Type} (key name : String) (value : α) (rest : List (String × α)) :
    ((name, value) :: rest).lookup key = if key = name then some value else rest.lookup key := by
  by_cases hkey : key = name
  · rw [List.lookup_cons, hkey, beq_self_eq_true, if_pos rfl]
  · rw [List.lookup_cons, beq_false_of_ne hkey, if_neg hkey]

namespace Rule

/-- A published rule is found by its identifier. -/
theorem lookup?_of_mem {rule : Rule} (hrule : rule ∈ catalog) : lookup? rule.id = some rule := by
  cases hfind : lookup? rule.id with
  | none => exact absurd (List.find?_eq_none.mp hfind rule hrule) (by simp)
  | some found =>
      have hid : found.id = rule.id := by simpa using List.find?_some hfind
      have hsame := List.inj_on_of_nodup_map nodup_map_id_catalog (List.mem_of_find?_eq_some hfind) hrule hid
      rw [hsame]

/-- Filing a rule changes what is found under its identifier and nothing else, whether or not the entries
are sorted. -/
theorem lookup_file (rule : Rule) (id : String) (entries : List (String × Rule)) :
    (file rule entries).lookup id = if id = rule.id then some rule else entries.lookup id := by
  -- a rule replaces the first entry of its name, or goes in front of the first one that is behind it
  induction entries with
  | nil => exact lookup_entry id rule.id rule []
  | cons entry rest ih =>
      obtain ⟨name, other⟩ := entry
      by_cases hname : name = rule.id
      · rw [file, if_pos hname, lookup_entry, lookup_entry, hname]
        split_ifs <;> rfl
      · by_cases hbefore : rule.id < name
        · rw [file, if_neg hname, if_pos hbefore, lookup_entry]
        · rw [file, if_neg hname, if_neg hbefore, lookup_entry, lookup_entry, ih]
          -- the rule is filed behind this entry, which has another name
          by_cases hid : id = rule.id
          · rw [if_pos hid, if_pos hid, if_neg (hid ▸ Ne.symm hname)]
          · rw [if_neg hid, if_neg hid]

/-- Filing rules of different identifiers one after the other makes each of them findable. -/
theorem lookup_foldl_file (rules : List Rule) (id : String) (entries : List (String × Rule))
    (hnodup : (rules.map Rule.id).Nodup) :
    (rules.foldl (fun entries rule => file rule entries) entries).lookup id
      = (rules.find? fun rule => rule.id == id).or (entries.lookup id) := by
  -- on the rules still to be filed, whatever has been filed before them
  induction rules generalizing entries with
  | nil => rfl
  | cons rule rest ih =>
      obtain ⟨hfresh, hrest⟩ := List.nodup_cons.mp hnodup
      rw [List.foldl_cons, ih _ hrest, lookup_file]
      by_cases hid : id = rule.id
      · -- no later rule has this identifier, so that this one stays
        have hnone : (rest.find? fun other => other.id == id) = none := by
          rw [List.find?_eq_none]
          intro other hother hsame
          exact hfresh (hid ▸ beq_iff_eq.mp hsame ▸ List.mem_map_of_mem hother)
        rw [hnone, if_pos hid, List.find?_cons, hid, beq_self_eq_true]
        rfl
      · have hother : (rule.id == id) = false := by simpa using fun h => hid h.symm
        rw [if_neg hid, List.find?_cons, hother]

/-- **Searching the catalog and looking into the directory are the same**, for every identifier. -/
theorem lookup_directory (id : String) : directory.lookup id = lookup? id := by
  rw [directory, lookup_foldl_file catalog id [] nodup_map_id_catalog, lookup?]
  exact Option.or_none

/-- No published rule has been replaced so far. -/
theorem status_of_mem {rule : Rule} (hrule : rule ∈ catalog) : rule.status = .active := by
  revert rule
  decide

/-- The front of a fixed text is found in its characters. -/
theorem ofList_takeWhile {cs front : List Char} {p : Char → Bool} (h : cs.takeWhile p = front) :
    String.ofList ((String.ofList cs).toList.takeWhile p) = String.ofList front := by
  rw [String.toList_ofList, h]

/-- An identifier begins with the segment of the stage that applies the rule. -/
theorem segment_of_mem {rule : Rule} (hrule : rule ∈ catalog) :
    String.ofList (rule.id.toList.takeWhile (· ≠ '.')) = rule.stage.ruleSegment := by
  unfold catalog at hrule
  fin_cases hrule <;> exact ofList_takeWhile (by decide)

end Rule

namespace Stage

/-- The rules that a stage applies, in the order of the catalog. -/
def rules (stage : Stage) : List Rule :=
  Rule.catalog.filter (·.stage = stage)

/-- The identifiers of the rules that a stage applies, in the order of the catalog. -/
def ruleIds (stage : Stage) : List String :=
  stage.rules.map Rule.id

theorem nodup_ruleIds (stage : Stage) : stage.ruleIds.Nodup :=
  Rule.nodup_map_id_catalog.sublist (List.filter_sublist.map Rule.id)

/-- The stages run in the order in which the catalog lists their rules. -/
theorem map_id_catalog : Rule.catalog.map Rule.id = order.flatMap ruleIds := rfl

/-- A rule belongs to one stage. -/
theorem eq_of_mem_ruleIds {stage other : Stage} {id : String} (h : id ∈ stage.ruleIds)
    (h' : id ∈ other.ruleIds) : stage = other := by
  obtain ⟨rule, hrule, rfl⟩ := List.mem_map.mp h
  obtain ⟨rule', hrule', hid⟩ := List.mem_map.mp h'
  obtain ⟨hin, hstage⟩ := List.mem_filter.mp hrule
  obtain ⟨hin', hstage'⟩ := List.mem_filter.mp hrule'
  have hsame : rule' = rule := List.inj_on_of_nodup_map Rule.nodup_map_id_catalog hin' hin hid
  rw [← of_decide_eq_true hstage, ← of_decide_eq_true hstage', hsame]

end Stage

/-! ## What a stage can find -/

/-- The findings that the warranty stage chooses from. -/
def Protection.candidates (w : Warranty) (savings : Float) : List Finding :=
  [scoreFinding w, repairFinding savings, laborFinding, manufacturerFinding]

/-- The findings that the return stage chooses from. -/
def Recourse.candidates (policy : ReturnPolicy) (hasWarranty : Bool) : List Finding :=
  [finalSaleFinding false, finalSaleFinding true, windowFinding policy, feeFinding policy,
    ratingFinding (policy.rating hasWarranty)]

/-- A finding that is made on a condition is either this one or none. -/
theorem Finding.ite_sublist (condition : Prop) [Decidable condition] (f : Finding) :
    (if condition then [f] else []).Sublist [f] := by
  split
  · exact List.Sublist.refl _
  · exact List.nil_sublist _

theorem Finding.ite_not_sublist (condition : Prop) [Decidable condition] (f : Finding) :
    (if condition then [] else [f]).Sublist [f] := by
  split
  · exact List.nil_sublist _
  · exact List.Sublist.refl _

theorem Protection.findings_assess_sublist (w : Warranty) (savings : Float) :
    (assess w savings).findings.Sublist (candidates w savings) :=
  (((List.Sublist.refl [scoreFinding w]).append (Finding.ite_sublist _ (repairFinding savings))).append
    (Finding.ite_not_sublist _ laborFinding)).append (Finding.ite_sublist _ manufacturerFinding)

theorem Recourse.findings_assess_sublist (policy : ReturnPolicy) (w : Warranty) :
    (assess policy w).findings.Sublist (candidates policy w.isGiven) := by
  have hsale : (if policy.finalSale then [finalSaleFinding w.isGiven] else []).Sublist
      [finalSaleFinding false, finalSaleFinding true] := by
    refine (Finding.ite_sublist _ _).trans (List.singleton_sublist.mpr ?_)
    cases w.isGiven <;> simp
  exact ((hsale.append (Finding.ite_sublist _ (windowFinding policy))).append
    (Finding.ite_sublist _ (feeFinding policy))).append
      (List.Sublist.refl [ratingFinding (policy.rating w.isGiven)])

/-! ## The rules behind the findings -/

theorem Visibility.isOf_assess (damage : Damage) (installation : Installation) :
    List.Forall₂ Finding.IsOf (assess damage installation).findings Stage.damage.rules :=
  .cons ⟨rfl, rfl⟩ (.cons ⟨rfl, rfl⟩ .nil)

theorem Visibility.map_ruleId_assess (damage : Damage) (installation : Installation) :
    (assess damage installation).findings.map Finding.ruleId = Stage.damage.ruleIds :=
  Finding.map_ruleId_of_isOf (isOf_assess damage installation)

theorem Price.isOf_assess (appliance : Appliance) (tier : DamageTier) :
    List.Forall₂ Finding.IsOf (assess appliance tier).findings Stage.pricing.rules :=
  .cons ⟨rfl, rfl⟩ (.cons ⟨rfl, rfl⟩ (.cons ⟨rfl, rfl⟩ .nil))

theorem Price.map_ruleId_assess (appliance : Appliance) (tier : DamageTier) :
    (assess appliance tier).findings.map Finding.ruleId = Stage.pricing.ruleIds :=
  Finding.map_ruleId_of_isOf (isOf_assess appliance tier)

theorem Condition.isOf_assess_some (inspection : Inspection) :
    List.Forall₂ Finding.IsOf (assess (some inspection)).findings Stage.safety.rules := by
  have hrules : checks.map Check.rule ++ [Rule.powerOn] = Stage.safety.rules := by decide
  have hchecks : List.Forall₂ Finding.IsOf (checks.map (·.finding inspection)) (checks.map Check.rule) := by
    rw [List.forall₂_map_left_iff, List.forall₂_map_right_iff, List.forall₂_same]
    exact fun _ _ => ⟨rfl, rfl⟩
  rw [← hrules]
  exact List.rel_append hchecks (.cons ⟨rfl, rfl⟩ .nil)

theorem Condition.map_ruleId_assess_some (inspection : Inspection) :
    (assess (some inspection)).findings.map Finding.ruleId = Stage.safety.ruleIds :=
  Finding.map_ruleId_of_isOf (isOf_assess_some inspection)

theorem Protection.isOf_candidates (w : Warranty) (savings : Float) :
    List.Forall₂ Finding.IsOf (candidates w savings) Stage.warranty.rules :=
  .cons ⟨rfl, rfl⟩ (.cons ⟨rfl, rfl⟩ (.cons ⟨rfl, rfl⟩ (.cons ⟨rfl, rfl⟩ .nil)))

theorem Protection.map_ruleId_candidates (w : Warranty) (savings : Float) :
    (candidates w savings).map Finding.ruleId = Stage.warranty.ruleIds :=
  Finding.map_ruleId_of_isOf (isOf_candidates w savings)

theorem Recourse.isOf_candidates (policy : ReturnPolicy) (hasWarranty : Bool) :
    List.Forall₂ Finding.IsOf (candidates policy hasWarranty) Stage.returns.rules :=
  .cons ⟨rfl, rfl⟩ (.cons ⟨rfl, rfl⟩ (.cons ⟨rfl, rfl⟩ (.cons ⟨rfl, rfl⟩ (.cons ⟨rfl, rfl⟩ .nil))))

theorem Recourse.map_ruleId_candidates (policy : ReturnPolicy) (hasWarranty : Bool) :
    (candidates policy hasWarranty).map Finding.ruleId = Stage.returns.ruleIds :=
  Finding.map_ruleId_of_isOf (isOf_candidates policy hasWarranty)

theorem Bargaining.isOf_assess (deal : Deal) (tier : DamageTier) (price : Price) :
    List.Forall₂ Finding.IsOf (assess deal tier price).findings Stage.negotiation.rules :=
  .cons ⟨rfl, rfl⟩ (.cons ⟨rfl, rfl⟩ (.cons ⟨rfl, rfl⟩ .nil))

theorem Bargaining.map_ruleId_assess (deal : Deal) (tier : DamageTier) (price : Price) :
    (assess deal tier price).findings.map Finding.ruleId = Stage.negotiation.ruleIds :=
  Finding.map_ruleId_of_isOf (isOf_assess deal tier price)

theorem Delivery.isOf_assess (appliance : Appliance) (installation : Installation) :
    List.Forall₂ Finding.IsOf (assess appliance installation).findings
      [Rule.delivery, transportRule appliance.kind, Rule.installationNotes] :=
  .cons ⟨rfl, rfl⟩ (.cons ⟨rfl, rfl⟩ (.cons ⟨rfl, rfl⟩ .nil))

theorem Delivery.map_ruleId_assess (appliance : Appliance) (installation : Installation) :
    (assess appliance installation).findings.map Finding.ruleId
      = [Rule.delivery.id, (transportRule appliance.kind).id, Rule.installationNotes.id] :=
  Finding.map_ruleId_of_isOf (isOf_assess appliance installation)

/-- The logistics stage applies one of its transport rules, whatever the appliance. -/
theorem Delivery.rules_sublist (kind : ApplianceKind) :
    [Rule.delivery, transportRule kind, Rule.installationNotes].Sublist Stage.logistics.rules := by
  cases kind <;> decide

theorem Delivery.ruleIds_sublist (kind : ApplianceKind) :
    [Rule.delivery.id, (transportRule kind).id, Rule.installationNotes.id].Sublist
      Stage.logistics.ruleIds :=
  (rules_sublist kind).map Rule.id

theorem Verdict.isOf_assess (findings : List Finding) (tolerance : RiskTolerance) :
    List.Forall₂ Finding.IsOf (assess findings tolerance).findings Stage.verdict.rules :=
  .cons ⟨rfl, rfl⟩ .nil

namespace Deal

variable (deal : Deal)

/-- **A stage makes at most one finding with each of its rules, in the order of the catalog**, and none with
a rule of another stage. -/
theorem sublist_isOf_findingsAt (stage : Stage) :
    List.SublistForall₂ Finding.IsOf (deal.findingsAt stage) stage.rules := by
  rw [List.sublistForall₂_iff]
  -- most stages go through all of their rules; those that leave some out choose from candidates
  cases stage with
  | damage => exact ⟨_, Visibility.isOf_assess _ _, List.Sublist.refl _⟩
  | pricing => exact ⟨_, Price.isOf_assess _ _, List.Sublist.refl _⟩
  | safety =>
      rw [findingsAt, condition]
      cases deal.inspection with
      | none => exact ⟨[], List.Forall₂.nil, List.nil_sublist _⟩
      | some inspection => exact ⟨_, Condition.isOf_assess_some inspection, List.Sublist.refl _⟩
  | warranty =>
      exact Finding.exists_sublist_isOf (Protection.findings_assess_sublist _ _)
        (Protection.isOf_candidates _ _)
  | returns =>
      exact Finding.exists_sublist_isOf (Recourse.findings_assess_sublist _ _)
        (Recourse.isOf_candidates _ _)
  | negotiation => exact ⟨_, Bargaining.isOf_assess _ _ _, List.Sublist.refl _⟩
  | logistics => exact ⟨_, Delivery.isOf_assess _ _, Delivery.rules_sublist _⟩
  | verdict => exact ⟨_, Verdict.isOf_assess _ _, List.Sublist.refl _⟩

theorem map_ruleId_findingsAt_sublist (stage : Stage) :
    ((deal.findingsAt stage).map Finding.ruleId).Sublist stage.ruleIds := by
  obtain ⟨applied, hof, hsublist⟩ := List.sublistForall₂_iff.mp (deal.sublist_isOf_findingsAt stage)
  rw [Finding.map_ruleId_of_isOf hof]
  exact hsublist.map Rule.id

/-- What a stage finds it finds with a rule of its own. -/
theorem exists_rule_of_mem_findingsAt {deal : Deal} {stage : Stage} {f : Finding}
    (hf : f ∈ deal.findingsAt stage) : ∃ rule ∈ stage.rules, f.IsOf rule := by
  obtain ⟨applied, hof, hsublist⟩ := List.sublistForall₂_iff.mp (deal.sublist_isOf_findingsAt stage)
  obtain ⟨rule, hrule, hfrule⟩ := Finding.exists_rule_of_mem hof hf
  exact ⟨rule, hsublist.subset hrule, hfrule⟩

end Deal

/-- Findings with one rule are made by one stage. -/
theorem Deal.stage_eq_of_ruleId {deal other : Deal} {stage stage' : Stage} {f g : Finding}
    (hf : f ∈ deal.findingsAt stage) (hg : g ∈ other.findingsAt stage') (hrule : f.ruleId = g.ruleId) :
    stage = stage' := by
  have hfrule := (deal.map_ruleId_findingsAt_sublist stage).subset (List.mem_map_of_mem hf)
  have hgrule := (other.map_ruleId_findingsAt_sublist stage').subset (List.mem_map_of_mem hg)
  exact Stage.eq_of_mem_ruleIds hfrule (hrule ▸ hgrule)

/-! ## A whole trace -/

namespace Deal

variable (deal : Deal) (timestamp : String)

/-- What holds for each stage holds for any run of stages. -/
theorem map_ruleId_findingsOf_sublist (stages : List Stage) :
    ((deal.findingsOf stages).map Finding.ruleId).Sublist (stages.flatMap Stage.ruleIds) := by
  rw [findingsOf, List.map_flatMap]
  exact List.Sublist.flatMap_right stages fun stage _ => deal.map_ruleId_findingsAt_sublist stage

/-- The stages that run are the first ones of all. -/
theorem course_sublist_order : deal.course.Sublist Stage.order := by
  unfold course
  split
  · exact List.take_sublist 3 _
  · exact List.take_sublist 5 _
  · exact List.Sublist.refl _

/-- An inspection is always looked at. -/
theorem safety_mem_course : Stage.safety ∈ deal.course := by
  unfold course
  split <;> decide

/-- **A trace agrees with the catalog.** The rules of its findings are published rules in the order of the
catalog, each of them at most once. Every finding can be looked up in the catalog and in the directory, with
one and the same rule found in both: it is applied to this day, it has the severity of the finding, and it
belongs to a stage that ran and whose segment the finding bears. -/
theorem findings_agree_with_catalog (deal : Deal) (timestamp : String) :
    let trace := (deal.evaluate timestamp).trace
    (trace.findings.map Finding.ruleId).Sublist (Rule.catalog.map Rule.id)
      ∧ (trace.findings.map Finding.ruleId).Nodup
      ∧ ∀ f ∈ trace.findings, ∃ rule,
          Rule.lookup? f.ruleId = some rule
            ∧ Rule.directory.lookup f.ruleId = some rule
            ∧ rule.status = .active
            ∧ rule.severity = f.severity
            ∧ rule.stage ∈ trace.stages
            ∧ rule.stage.ruleSegment = f.segment := by
  intro trace
  have hfindings : trace.findings = deal.findingsOf deal.course := deal.findings_trace_evaluate timestamp
  have hsublist : (trace.findings.map Finding.ruleId).Sublist (Rule.catalog.map Rule.id) := by
    rw [hfindings, Stage.map_id_catalog]
    exact (deal.map_ruleId_findingsOf_sublist deal.course).trans (deal.course_sublist_order.flatMap _)
  refine ⟨hsublist, Rule.nodup_map_id_catalog.sublist hsublist, ?_⟩
  -- a finding of the trace was made by some stage that ran, with a rule of that stage
  intro f hf
  rw [hfindings, findingsOf, List.mem_flatMap] at hf
  obtain ⟨stage, hran, hf⟩ := hf
  obtain ⟨rule, hrule, hid, hseverity⟩ := exists_rule_of_mem_findingsAt hf
  obtain ⟨hpublished, hstage⟩ := List.mem_filter.mp hrule
  have hlookup : Rule.lookup? f.ruleId = some rule := by
    rw [hid]
    exact Rule.lookup?_of_mem hpublished
  refine ⟨rule, hlookup, ?_, Rule.status_of_mem hpublished, hseverity.symm, ?_, ?_⟩
  · rw [Rule.lookup_directory]
    exact hlookup
  · rw [of_decide_eq_true hstage, stages_trace_evaluate]
    exact hran
  · rw [← Rule.segment_of_mem hpublished, ← hid]
    rfl

/-- The water staining that stopped the washer is found with a blocker of the safety stage, which ran. -/
theorem stainedWasher_agrees_with_catalog :
    let trace := (Sample.stainedWasher.deal.evaluate "2025-06-01T12:00:00Z").trace
    ∃ f ∈ trace.findings, f.ruleId = "SAFETY.HAZARD.WATER_STAINING_V1"
      ∧ ∃ rule, Rule.lookup? f.ruleId = some rule ∧ Rule.directory.lookup f.ruleId = some rule
        ∧ rule.severity = f.severity ∧ rule.stage ∈ trace.stages
        ∧ rule.stage.ruleSegment = "SAFETY" := by
  intro trace
  obtain ⟨_, _, hlookup⟩ := findings_agree_with_catalog Sample.stainedWasher.deal "2025-06-01T12:00:00Z"
  have hmem : ∀ f ∈ Sample.stainedWasher.deal.condition.findings, f ∈ trace.findings := by
    intro f hf
    rw [findings_trace_evaluate, findingsOf, List.mem_flatMap]
    exact ⟨.safety, safety_mem_course _, hf⟩
  have hstaining := hmem _ (List.mem_cons_of_mem _ List.mem_cons_self)
  obtain ⟨rule, hfound, hfiled, _, hseverity, hran, hsegment⟩ := hlookup _ hstaining
  exact ⟨_, hstaining, rfl, rule, hfound, hfiled, hseverity, hran, hsegment⟩

end Deal

end Appraisal
