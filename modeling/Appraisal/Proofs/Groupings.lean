/-
A trace can be read in two groupings, and neither loses a finding.

The sections cut the findings where the segment changes. They hold all findings in their order, and there is
only one way to cut them so. The groups collect under each segment the findings that bear it, wherever they
stand. In a trace that was put together by hand the two can differ: a segment that returns later opens another
section, but it has one group.

In the trace of an evaluation they agree. A stage makes its findings in one go, all of them with the segment
of the stage, and no two stages share a segment. So there is one section for each stage that made a finding,
and the group of its segment is the same. Every stage that runs makes a finding, except that there is nothing
to be said about the condition of an appliance that was not inspected.
-/
import Mathlib.Data.List.Chain
import Mathlib.Data.List.Nodup
import Appraisal.Proofs.Published
import Appraisal.Samples

set_option autoImplicit false

namespace Appraisal

namespace Trace

/-! ## Sections -/

/-- Findings cut into sections: nothing is lost, each section holds findings of its own segment and at least
one of them, and adjacent sections differ in their segments. -/
structure IsCut (findings : List Finding) (sections : List Group) : Prop where
  whole : sections.flatMap Prod.snd = findings
  nonempty : ∀ group ∈ sections, group.2 ≠ []
  segment : ∀ group ∈ sections, ∀ f ∈ group.2, f.segment = group.1
  apart : sections.IsChain fun group next => group.1 ≠ next.1

theorem isCut_nil : IsCut [] [] where
  whole := rfl
  nonempty := List.forall_mem_nil _
  segment := List.forall_mem_nil _
  apart := List.isChain_nil

/-- The two things that can happen to a finding in front of sections. -/
theorem prependToSections_cases (f : Finding) (sections : List Group) :
    (∃ members behind, sections = (f.segment, members) :: behind
        ∧ prependToSections f sections = (f.segment, f :: members) :: behind)
      ∨ ((∀ group ∈ sections.head?, f.segment ≠ group.1)
        ∧ prependToSections f sections = (f.segment, [f]) :: sections) := by
  rcases sections with _ | ⟨⟨name, members⟩, behind⟩
  · exact Or.inr ⟨by simp, rfl⟩
  · by_cases hname : name = f.segment
    · subst hname
      exact Or.inl ⟨members, behind, rfl, if_pos rfl⟩
    · refine Or.inr ⟨?_, if_neg hname⟩
      rintro _ ⟨⟩
      exact Ne.symm hname

namespace IsCut

variable {f : Finding} {findings members : List Finding} {name : String} {behind sections : List Group}

/-- A finding extends the section in front if it has its segment. -/
theorem extend (h : IsCut findings ((f.segment, members) :: behind)) :
    IsCut (f :: findings) ((f.segment, f :: members) :: behind) where
  whole := by
    rw [← h.whole]
    rfl
  nonempty := List.forall_mem_cons.mpr
    ⟨List.cons_ne_nil _ _, fun group hgroup => h.nonempty group (List.mem_cons_of_mem _ hgroup)⟩
  segment := List.forall_mem_cons.mpr
    ⟨List.forall_mem_cons.mpr ⟨rfl, h.segment _ List.mem_cons_self⟩,
      fun group hgroup => h.segment group (List.mem_cons_of_mem _ hgroup)⟩
  apart := List.isChain_cons.mpr (List.isChain_cons.mp h.apart)

/-- A finding opens a section in front of one with another segment. -/
theorem openSection (h : IsCut findings sections) (hother : ∀ group ∈ sections.head?, f.segment ≠ group.1) :
    IsCut (f :: findings) ((f.segment, [f]) :: sections) where
  whole := by
    rw [← h.whole]
    rfl
  nonempty := List.forall_mem_cons.mpr ⟨List.cons_ne_nil _ _, h.nonempty⟩
  segment := List.forall_mem_cons.mpr ⟨List.forall_mem_cons.mpr ⟨rfl, List.forall_mem_nil _⟩, h.segment⟩
  apart := List.isChain_cons.mpr ⟨hother, h.apart⟩

/-- **One finding more in front leaves a cut a cut.** -/
theorem prepend (f : Finding) (h : IsCut findings sections) :
    IsCut (f :: findings) (prependToSections f sections) := by
  rcases prependToSections_cases f sections with ⟨members, behind, rfl, heq⟩ | ⟨hother, heq⟩
  · rw [heq]
    exact h.extend
  · rw [heq]
    exact h.openSection hother

/-- Behind the section in front there is a cut of the findings behind it. -/
theorem tail (h : IsCut findings ((name, members) :: behind)) : IsCut (behind.flatMap Prod.snd) behind where
  whole := rfl
  nonempty group hgroup := h.nonempty group (List.mem_cons_of_mem _ hgroup)
  segment group hgroup := h.segment group (List.mem_cons_of_mem _ hgroup)
  apart := (List.isChain_cons.mp h.apart).2

/-- A cut was a cut before the finding in front came to it. -/
theorem exists_prepend (h : IsCut (f :: findings) sections) :
    ∃ before, IsCut findings before ∧ sections = prependToSections f before := by
  rcases sections with _ | ⟨⟨name, _ | ⟨first, members⟩⟩, behind⟩
  · cases h.whole
  · exact absurd rfl (h.nonempty _ List.mem_cons_self)
  · obtain ⟨rfl, hwhole⟩ := List.cons.inj h.whole
    obtain ⟨hfirst, hmembers⟩ := List.forall_mem_cons.mp (h.segment _ List.mem_cons_self)
    obtain rfl : first.segment = name := hfirst
    rcases members with _ | ⟨second, rest⟩
    · -- the finding was alone in its section, which goes with it
      have htail := h.tail
      rw [show behind.flatMap Prod.snd = findings from hwhole] at htail
      refine ⟨behind, htail, ?_⟩
      have hother := (List.isChain_cons.mp h.apart).1
      rcases prependToSections_cases first behind with ⟨others, _, rfl, _⟩ | ⟨_, heq⟩
      · exact absurd rfl (hother (first.segment, others) (Option.mem_some_self _))
      · exact heq.symm
    · -- the section stays, with one finding less
      refine ⟨(first.segment, second :: rest) :: behind, ?_, (if_pos rfl).symm⟩
      exact
        { whole := hwhole
          nonempty := List.forall_mem_cons.mpr ⟨List.cons_ne_nil _ _, h.tail.nonempty⟩
          segment := List.forall_mem_cons.mpr ⟨hmembers, h.tail.segment⟩
          apart := List.isChain_cons.mpr (List.isChain_cons.mp h.apart) }

end IsCut

/-- **The sections of findings are a cut of them**, whatever findings these are. -/
theorem isCut_sectionsOf (findings : List Finding) : IsCut findings (sectionsOf findings) := by
  induction findings with
  | nil => exact isCut_nil
  | cons f rest ih => exact ih.prepend f

/-- **There is no other cut.** -/
theorem IsCut.eq_sectionsOf {findings : List Finding} {sections : List Group} (h : IsCut findings sections) :
    sections = sectionsOf findings := by
  induction findings generalizing sections with
  | nil =>
      rcases sections with _ | ⟨group, behind⟩
      · rfl
      · have hempty : group.2 ++ behind.flatMap Prod.snd = [] := h.whole
        exact absurd (List.append_eq_nil_iff.mp hempty).1 (h.nonempty group List.mem_cons_self)
  | cons f rest ih =>
      obtain ⟨before, hbefore, rfl⟩ := h.exists_prepend
      rw [ih hbefore, sectionsOf]

/-- A segment that returns opens another section. An identifier without a dot is a segment as a whole. -/
example :
    let made := fun ruleId => (⟨ruleId, .info, true, "", [], []⟩ : Finding)
    (sectionsOf [made "A.1", made "A", made "", made "A.2"]).map Prod.fst = ["A", "", "A"] := by
  decide

/-- If no segment returns, a section holds all findings that bear its segment. -/
theorem IsCut.filter_segment {findings : List Finding} {sections : List Group} (h : IsCut findings sections)
    (hnodup : (sections.map Prod.fst).Nodup) {group : Group} (hgroup : group ∈ sections) :
    findings.filter (·.segment = group.1) = group.2 := by
  obtain ⟨before, behind, rfl⟩ := List.append_of_mem hgroup
  have hother : ∀ other ∈ before ++ behind, other.1 ≠ group.1 := by
    rw [List.map_append, List.map_cons, List.nodup_middle, ← List.map_append] at hnodup
    intro other hmem hsame
    exact (List.nodup_cons.mp hnodup).1 (hsame ▸ List.mem_map_of_mem hmem)
  -- the sections in front of it and behind it bear other segments
  have hnone : ∀ part : List Group, (∀ other ∈ part, other ∈ before ++ behind) →
      (part.flatMap Prod.snd).filter (·.segment = group.1) = [] := by
    intro part hpart
    rw [List.filter_eq_nil_iff]
    intro f hf
    obtain ⟨other, hmem, hf⟩ := List.mem_flatMap.mp hf
    have hin : other ∈ before ++ group :: behind :=
      List.perm_middle.mem_iff.mpr (List.mem_cons_of_mem _ (hpart other hmem))
    rw [h.segment other hin f hf]
    simpa using hother other (hpart other hmem)
  have hall : group.2.filter (·.segment = group.1) = group.2 := by
    rw [List.filter_eq_self]
    intro f hf
    exact decide_eq_true (h.segment group hgroup f hf)
  rw [← h.whole, List.flatMap_append, List.flatMap_cons, List.filter_append, List.filter_append, hall,
    hnone before fun _ => List.mem_append_left _, hnone behind fun _ => List.mem_append_right _,
    List.nil_append, List.append_nil]

/-! ## Groups -/

/-- Findings by segment: the groups are sorted by segment without repetition, and the group of a segment holds
the findings that bear it, in their order, if there are any. -/
structure IsIndex (findings : List Finding) (groups : List Group) : Prop where
  sorted : groups.Pairwise fun group next => group.1 < next.1
  lookup : ∀ name, groups.lookup name
    = if name ∈ findings.map Finding.segment then some (findings.filter (·.segment = name)) else none

/-- What is in front of the first of sorted groups is in front of them all. -/
theorem lt_of_lt_first {first : Group} {rest : List Group} {name : String} (hbefore : name < first.1)
    (hsorted : (first :: rest).Pairwise fun group next => group.1 < next.1) :
    ∀ group ∈ first :: rest, name < group.1 :=
  List.forall_mem_cons.mpr
    ⟨hbefore, fun group hgroup => String.lt_trans hbefore ((List.pairwise_cons.mp hsorted).1 group hgroup)⟩

/-- A segment in front of sorted groups has no group among them. -/
theorem lookup_eq_none_of_lt {groups : List Group} {name : String} (h : ∀ group ∈ groups, name < group.1) :
    groups.lookup name = none := by
  rw [List.lookup_eq_none_iff]
  intro group hgroup
  have hne : name ≠ group.1 := by
    intro heq
    exact String.lt_irrefl _ (heq ▸ h group hgroup)
  simpa using hne

/-- Adding a finding changes the group of its segment and no other. -/
theorem lookup_addToGroups (f : Finding) {groups : List Group} (name : String)
    (hsorted : groups.Pairwise fun group next => group.1 < next.1) :
    (addToGroups f groups).lookup name
      = if name = f.segment then some ((groups.lookup name).getD [] ++ [f]) else groups.lookup name := by
  induction groups with
  | nil => exact lookup_entry name f.segment [f] []
  | cons group rest ih =>
      obtain ⟨first, members⟩ := group
      by_cases hsame : first = f.segment
      · rw [addToGroups, if_pos hsame, lookup_entry, lookup_entry, hsame]
        split_ifs <;> rfl
      · by_cases hbefore : f.segment < first
        · rw [addToGroups, if_neg hsame, if_pos hbefore, lookup_entry]
          -- the segment is in front of all groups, so that it had none
          have hnone : ((first, members) :: rest).lookup f.segment = none :=
            lookup_eq_none_of_lt (lt_of_lt_first hbefore hsorted)
          split_ifs with hname
          · rw [hname, hnone]
            rfl
          · rfl
        · rw [addToGroups, if_neg hsame, if_neg hbefore, lookup_entry, lookup_entry,
            ih (List.pairwise_cons.mp hsorted).2]
          by_cases hname : name = f.segment
          · have hother : name ≠ first := fun h => hsame (h.symm.trans hname)
            rw [if_pos hname, if_pos hname, if_neg hother, if_neg hother]
          · rw [if_neg hname, if_neg hname]

/-- Adding a finding opens no group but that of its segment. -/
theorem mem_addToGroups {f : Finding} {groups : List Group} {group : Group} (h : group ∈ addToGroups f groups) :
    group.1 = f.segment ∨ ∃ old ∈ groups, old.1 = group.1 := by
  induction groups with
  | nil =>
      rw [addToGroups, List.mem_singleton] at h
      exact Or.inl (h ▸ rfl)
  | cons first rest ih =>
      obtain ⟨name, members⟩ := first
      rw [addToGroups] at h
      split_ifs at h with hsame hbefore
      · rcases List.mem_cons.mp h with rfl | h
        · exact Or.inl hsame
        · exact Or.inr ⟨group, List.mem_cons_of_mem _ h, rfl⟩
      · rcases List.mem_cons.mp h with rfl | h
        · exact Or.inl rfl
        · exact Or.inr ⟨group, h, rfl⟩
      · rcases List.mem_cons.mp h with rfl | h
        · exact Or.inr ⟨_, List.mem_cons_self, rfl⟩
        · rcases ih h with hsegment | ⟨old, hold, hname⟩
          · exact Or.inl hsegment
          · exact Or.inr ⟨old, List.mem_cons_of_mem _ hold, hname⟩

/-- Groups stay sorted when a finding is added. -/
theorem sorted_addToGroups (f : Finding) {groups : List Group}
    (hsorted : groups.Pairwise fun group next => group.1 < next.1) :
    (addToGroups f groups).Pairwise fun group next => group.1 < next.1 := by
  induction groups with
  | nil => exact List.pairwise_singleton _ _
  | cons group rest ih =>
      obtain ⟨first, members⟩ := group
      obtain ⟨hfirst, hrest⟩ := List.pairwise_cons.mp hsorted
      rw [addToGroups]
      split_ifs with hsame hbefore
      · exact List.pairwise_cons.mpr ⟨hfirst, hrest⟩
      · exact List.pairwise_cons.mpr ⟨lt_of_lt_first hbefore hsorted, hsorted⟩
      · refine List.pairwise_cons.mpr ⟨fun group hgroup => ?_, ih hrest⟩
        rcases mem_addToGroups hgroup with hsegment | ⟨old, hold, hname⟩
        · rw [hsegment]
          exact Std.lt_of_le_of_ne (String.not_lt.mp hbefore) hsame
        · rw [← hname]
          exact hfirst old hold

/-- **One finding more leaves the groups an index.** -/
theorem IsIndex.add {findings : List Finding} {groups : List Group} (f : Finding) (h : IsIndex findings groups) :
    IsIndex (findings ++ [f]) (addToGroups f groups) where
  sorted := sorted_addToGroups f h.sorted
  lookup name := by
    rw [lookup_addToGroups f name h.sorted, h.lookup name, List.map_append, List.filter_append]
    by_cases hname : name = f.segment
    · subst hname
      by_cases hmem : f.segment ∈ findings.map Finding.segment
      · simp [hmem]
      · -- the first finding of its segment
        have hnone : findings.filter (·.segment = f.segment) = [] := by
          rw [List.filter_eq_nil_iff]
          intro other hother hsame
          exact hmem (of_decide_eq_true hsame ▸ List.mem_map_of_mem hother)
        simp [hmem, hnone]
    · simp [hname, Ne.symm hname]

/-- **The groups of a trace are an index of its findings**, whatever findings these are. -/
theorem isIndex_groups (trace : Trace) : IsIndex trace.findings trace.groups := by
  -- on the findings from the right: the last one was added last
  rw [groups]
  induction trace.findings using List.reverseRecOn with
  | nil =>
      exact
        { sorted := List.Pairwise.nil
          lookup := fun _ => rfl }
  | append_singleton findings f ih =>
      rw [List.foldl_append]
      exact ih.add f

/-- **Where no segment returns, the group of a segment is its section.** -/
theorem lookup_groups_of_mem_sections {trace : Trace} (hnodup : (trace.sections.map Prod.fst).Nodup)
    {group : Group} (hgroup : group ∈ trace.sections) : trace.groups.lookup group.1 = some group.2 := by
  have hcut := isCut_sectionsOf trace.findings
  have hfilter := hcut.filter_segment hnodup hgroup
  -- the section is not empty, so that its segment occurs
  have hoccurs : group.1 ∈ trace.findings.map Finding.segment := by
    obtain ⟨f, hf⟩ := List.exists_mem_of_ne_nil _ (hcut.nonempty group hgroup)
    rw [← hfilter] at hf
    exact List.mem_map.mpr ⟨f, (List.mem_filter.mp hf).1, of_decide_eq_true (List.mem_filter.mp hf).2⟩
  rw [(isIndex_groups trace).lookup, if_pos hoccurs, hfilter]

end Trace

/-! ## The trace of an evaluation -/

/-- No two stages share a segment. -/
theorem Stage.nodup_map_ruleSegment_order : (order.map ruleSegment).Nodup := by decide

namespace Deal

variable (deal : Deal)

/-- A stage that runs makes a finding, unless it has no inspection to look at. -/
theorem findingsAt_eq_nil_iff (stage : Stage) :
    deal.findingsAt stage = [] ↔ stage = .safety ∧ deal.inspection = none := by
  cases stage with
  | safety =>
      rw [findingsAt, condition]
      cases deal.inspection with
      | none => exact iff_of_true rfl ⟨rfl, rfl⟩
      | some inspection => exact iff_of_false (List.append_ne_nil_of_right_ne_nil _ (by simp)) (by simp)
  | returns => exact iff_of_false (List.append_ne_nil_of_right_ne_nil _ (by simp)) (by simp)
  | _ => exact iff_of_false (List.cons_ne_nil _ _) (by simp)

/-- A finding bears the segment of the stage that makes it. -/
theorem segment_of_mem_findingsAt {stage : Stage} {f : Finding} (hf : f ∈ deal.findingsAt stage) :
    f.segment = stage.ruleSegment := by
  obtain ⟨rule, hrule, hid, _⟩ := exists_rule_of_mem_findingsAt hf
  obtain ⟨hpublished, hstage⟩ := List.mem_filter.mp hrule
  rw [← of_decide_eq_true hstage, ← Rule.segment_of_mem hpublished, ← hid]
  rfl

/-- The stages that ran and had something to look at. -/
def outspoken : List Stage :=
  deal.course.filter fun stage => stage ≠ .safety || deal.inspection.isSome

/-- These are the stages with findings. -/
theorem outspoken_eq : deal.outspoken = deal.course.filter fun stage => !(deal.findingsAt stage).isEmpty := by
  refine List.filter_congr fun stage _ => ?_
  rw [Bool.eq_iff_iff, Bool.not_eq_true', ← Bool.not_eq_true, List.isEmpty_iff, findingsAt_eq_nil_iff]
  cases deal.inspection <;> simp

/-- Nothing is lost with the stages that are silent. -/
theorem findingsOf_outspoken : deal.findingsOf deal.outspoken = deal.findingsOf deal.course := by
  rw [findingsOf, findingsOf, List.flatMap_def, List.flatMap_def, outspoken_eq]
  have hfilter := List.filter_map (f := deal.findingsAt) (p := fun found => !found.isEmpty) (l := deal.course)
  exact (congrArg List.flatten hfilter).symm.trans List.flatten_filter_not_isEmpty

theorem nodup_map_ruleSegment_outspoken : (deal.outspoken.map Stage.ruleSegment).Nodup :=
  Stage.nodup_map_ruleSegment_order.sublist
    ((List.filter_sublist.trans deal.course_sublist_order).map Stage.ruleSegment)

/-- **What each stage found, under its segment, is a cut of what was found altogether.** -/
theorem isCut_outspoken :
    Trace.IsCut (deal.findingsOf deal.course)
      (deal.outspoken.map fun stage => (stage.ruleSegment, deal.findingsAt stage)) where
  whole := by
    rw [List.flatMap_map]
    exact deal.findingsOf_outspoken
  nonempty := List.forall_mem_map.mpr fun stage hstage => by
    rw [outspoken_eq] at hstage
    simpa using (List.mem_filter.mp hstage).2
  segment := List.forall_mem_map.mpr fun stage _ f hf => deal.segment_of_mem_findingsAt hf
  apart := by
    rw [List.isChain_map]
    exact (List.pairwise_map.mp deal.nodup_map_ruleSegment_outspoken).isChain

/-- **The sections of an evaluation are what each stage found**, in the order in which the stages ran. -/
theorem sections_trace_evaluate (timestamp : String) :
    (deal.evaluate timestamp).trace.sections
      = deal.outspoken.map fun stage => (stage.ruleSegment, deal.findingsAt stage) := by
  rw [Trace.sections, findings_trace_evaluate]
  exact deal.isCut_outspoken.eq_sectionsOf.symm

/-- **The two groupings of a trace lose nothing and agree.** Whatever the findings of a trace are, its sections
are a cut of them and its groups are an index of them. In the trace of an evaluation the sections bear the
segments of the stages that ran, in their order and each of them once, without that of the condition if there
was no inspection; and the group of each of these segments is its section. -/
theorem groupings_lose_nothing_and_agree :
    (∀ trace : Trace, Trace.IsCut trace.findings trace.sections ∧ Trace.IsIndex trace.findings trace.groups)
      ∧ ∀ (deal : Deal) (timestamp : String),
        let trace := (deal.evaluate timestamp).trace
        trace.sections.map Prod.fst
            = (trace.stages.filter fun stage => stage ≠ .safety || deal.inspection.isSome).map Stage.ruleSegment
          ∧ (trace.sections.map Prod.fst).Nodup
          ∧ ∀ group ∈ trace.sections, trace.groups.lookup group.1 = some group.2 := by
  refine ⟨fun trace => ⟨Trace.isCut_sectionsOf _, Trace.isIndex_groups trace⟩, fun deal timestamp => ?_⟩
  intro trace
  have hnames : trace.sections.map Prod.fst = deal.outspoken.map Stage.ruleSegment := by
    rw [deal.sections_trace_evaluate timestamp, List.map_map]
    rfl
  have hnodup : (trace.sections.map Prod.fst).Nodup := by
    rw [hnames]
    exact deal.nodup_map_ruleSegment_outspoken
  refine ⟨?_, hnodup, fun group hgroup => Trace.lookup_groups_of_mem_sections hnodup hgroup⟩
  rw [hnames, deal.stages_trace_evaluate timestamp]
  rfl

/-- The washer was stopped at its inspection, which is the last section of its trace and the group of its segment.
Nobody inspected the range, and what was found about it says nothing about its condition. -/
theorem samples_grouped :
    let washer := (Sample.stainedWasher.deal.evaluate "2025-06-01T12:00:00Z").trace
    let range := (Sample.chippedRange.deal.evaluate "2025-06-01T12:00:00Z").trace
    washer.sections.map Prod.fst = ["DAMAGE", "PRICING", "SAFETY"]
      ∧ (∃ members, ("SAFETY", members) ∈ washer.sections ∧ washer.groups.lookup "SAFETY" = some members)
      ∧ range.sections.map Prod.fst
        = ["DAMAGE", "PRICING", "WARRANTY", "RETURN", "NEGOTIATION", "LOGISTICS", "VERDICT"] := by
  intro washer range
  obtain ⟨_, hevaluated⟩ := groupings_lose_nothing_and_agree
  obtain ⟨hwasher, _, hagree⟩ := hevaluated Sample.stainedWasher.deal "2025-06-01T12:00:00Z"
  obtain ⟨hrange, _, _⟩ := hevaluated Sample.chippedRange.deal "2025-06-01T12:00:00Z"
  rw [stages_trace_evaluate] at hwasher hrange
  have hnames : washer.sections.map Prod.fst = ["DAMAGE", "PRICING", "SAFETY"] := hwasher.trans (by decide)
  have hsafety : "SAFETY" ∈ washer.sections.map Prod.fst := by
    rw [hnames]
    decide
  obtain ⟨⟨_, members⟩, hgroup, rfl⟩ := List.mem_map.mp hsafety
  exact ⟨hnames, ⟨members, hgroup, hagree _ hgroup⟩, hrange.trans (by decide)⟩

end Deal

end Appraisal
