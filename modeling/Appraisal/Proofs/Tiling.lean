/-
The stretches of a ledger tile its findings.

A ledger keeps one growing list of findings and remembers stretches of it by position. A position that is off by
one would charge a halt to the wrong stage, or reach behind the end of the list. Neither can happen, whatever is
recorded, stages repeated or not and lists empty or not. `Keeps` says what a ledger knows of the records made so
far: all their findings in order, stretches that lie end to end over them, and behind each stretch exactly what
its record brought. One more record keeps this (`Keeps.record`), because what is added behind the end moves
nothing, and so does every run of records (`keeps_ofRecords`).

Of two stretches that cover a position one would have to overlap the other, so every finding belongs to one
stretch, and the blocker that a gate asks for was made by the stage that it asks about.
-/
import Mathlib.Data.List.Induction
import Appraisal.Proofs.Ledger
import Appraisal.Trace.Basic

set_option autoImplicit false

namespace Appraisal

/-! ## Stretches end to end -/

/-- The positions that belong to a span. -/
def Span.Covers (span : Span) (position : Nat) : Prop :=
  span.first ≤ position ∧ position < span.last

/-- The spans lie end to end from the first position up to but not including the last one, with no gap and no
overlap between them. A span may be empty. -/
def Tiles (first last : Nat) : List Span → Prop
  | [] => first = last
  | span :: rest => span.first = first ∧ span.first ≤ span.last ∧ Tiles span.last last rest

namespace Tiles

variable {first last : Nat} {spans : List Span}

theorem le (h : Tiles first last spans) : first ≤ last := by
  induction spans generalizing first with
  | nil => exact Nat.le_of_eq h
  | cons span rest ih =>
      obtain ⟨rfl, hspan, hrest⟩ := h
      exact Nat.le_trans hspan (ih hrest)

/-- One more span at the end. -/
theorem concat (h : Tiles first last spans) (stage : Stage) (length : Nat) :
    Tiles first (last + length) (spans ++ [⟨stage, last, last + length⟩]) := by
  induction spans generalizing first with
  | nil => exact ⟨h.symm, Nat.le_add_right _ _, rfl⟩
  | cons span rest ih =>
      obtain ⟨hfirst, hspan, hrest⟩ := h
      exact ⟨hfirst, hspan, ih hrest⟩

/-- Every span is a stretch between the two ends. -/
theorem in_range (h : Tiles first last spans) {span : Span} (hspan : span ∈ spans) :
    first ≤ span.first ∧ span.first ≤ span.last ∧ span.last ≤ last := by
  induction spans generalizing first with
  | nil => exact absurd hspan List.not_mem_nil
  | cons other rest ih =>
      obtain ⟨rfl, hother, hrest⟩ := h
      rcases List.mem_cons.mp hspan with rfl | hmem
      · exact ⟨Nat.le_refl _, hother, hrest.le⟩
      · obtain ⟨hfirst, hwithin⟩ := ih hrest hmem
        exact ⟨Nat.le_trans hother hfirst, hwithin⟩

/-- **Every position belongs to exactly one span.** It lies in the first span, or in one of those behind it. -/
theorem existsUnique_covers (h : Tiles first last spans) {position : Nat} (hfirst : first ≤ position)
    (hlast : position < last) : ∃! span, span ∈ spans ∧ span.Covers position := by
  induction spans generalizing first with
  | nil =>
      obtain rfl : first = last := h
      omega
  | cons span rest ih =>
      obtain ⟨rfl, hspan, hrest⟩ := h
      by_cases hwithin : position < span.last
      · refine ⟨span, ⟨List.mem_cons_self, hfirst, hwithin⟩, ?_⟩
        rintro other ⟨hmem, hcovers⟩
        rcases List.mem_cons.mp hmem with rfl | hbehind
        · rfl
        · -- a span behind the first one starts where the first one ends, or later
          have hstart := (hrest.in_range hbehind).1
          have hposition := hcovers.1
          omega
      · obtain ⟨found, ⟨hmem, hcovers⟩, hunique⟩ := ih hrest (Nat.le_of_not_lt hwithin)
        refine ⟨found, ⟨List.mem_cons_of_mem _ hmem, hcovers⟩, ?_⟩
        rintro other ⟨hmem', hcovers'⟩
        rcases List.mem_cons.mp hmem' with rfl | hbehind
        · exact absurd hcovers'.2 hwithin
        · exact hunique other ⟨hbehind, hcovers'⟩

end Tiles

namespace Ledger

/-! ## What a ledger knows of its records -/

variable {ledger : Ledger} {records : List (Stage × List Finding)} {stage : Stage}

/-- The ledger has the findings of the records in order, its spans tile them, and each span is the stage of its
record together with exactly the findings of that record. -/
structure Keeps (ledger : Ledger) (records : List (Stage × List Finding)) : Prop where
  findings : ledger.findings = records.flatMap Prod.snd
  tiles : Tiles 0 ledger.findings.length ledger.spans
  slices : ledger.spans.map (fun span => (span.stage, ledger.slice span)) = records

theorem keeps_empty : empty.Keeps [] :=
  ⟨rfl, rfl, rfl⟩

/-- What is added behind the end of the findings does not change a slice of them. -/
theorem slice_record (stage : Stage) (findings : List Finding) {span : Span}
    (hspan : span.first ≤ span.last) (hlast : span.last ≤ ledger.findings.length) :
    (ledger.record stage findings).slice span = ledger.slice span := by
  have hlength : span.last - span.first ≤ (ledger.findings.drop span.first).length := by
    rw [List.length_drop]
    exact Nat.sub_le_sub_right hlast _
  rw [slice, slice, record]
  dsimp only
  rw [List.drop_append_of_le_length (Nat.le_trans hspan hlast), List.take_append_of_le_length hlength]

/-- The new span cuts out what is added. -/
theorem slice_record_self (stage : Stage) (findings : List Finding) :
    (ledger.record stage findings).slice
        ⟨stage, ledger.findings.length, ledger.findings.length + findings.length⟩ = findings := by
  simp [slice, record]

/-- **One more record** is known as well as those before it. -/
theorem Keeps.record (h : ledger.Keeps records) (stage : Stage) (findings : List Finding) :
    (ledger.record stage findings).Keeps (records ++ [(stage, findings)]) where
  findings := by
    rw [List.flatMap_append, List.flatMap_singleton, ← h.findings]
    rfl
  tiles := by
    have hlength : (ledger.record stage findings).findings.length
        = ledger.findings.length + findings.length := List.length_append
    rw [hlength]
    exact h.tiles.concat stage findings.length
  slices := by
    have hearlier : ∀ span ∈ ledger.spans,
        (span.stage, (ledger.record stage findings).slice span) = (span.stage, ledger.slice span) := by
      intro span hspan
      obtain ⟨-, hordered, hlast⟩ := h.tiles.in_range hspan
      rw [slice_record stage findings hordered hlast]
    have hspans : (ledger.record stage findings).spans = ledger.spans
        ++ [⟨stage, ledger.findings.length, ledger.findings.length + findings.length⟩] := rfl
    rw [hspans, List.map_append, List.map_congr_left hearlier, h.slices, List.map_singleton,
      slice_record_self]

/-- **Every run of records is known**, from the empty ledger on. The induction is on the records from the last
one back, since that is the one that was added to the ledger of the others. -/
theorem keeps_ofRecords (records : List (Stage × List Finding)) : (ofRecords records).Keeps records := by
  induction records using List.reverseRecOn with
  | nil => exact keeps_empty
  | append_singleton records record ih =>
      have hlast : ofRecords (records ++ [record]) = (ofRecords records).record record.1 record.2 := by
        rw [ofRecords, List.foldl_append]
        rfl
      rw [hlast]
      exact ih.record record.1 record.2

/-! ## The blocker of a stage -/

/-- The findings are those of the first record of a stage. -/
def IsFirstRecord (records : List (Stage × List Finding)) (stage : Stage) (findings : List Finding) : Prop :=
  ∃ before behind, records = before ++ (stage, findings) :: behind ∧ ∀ record ∈ before, record.1 ≠ stage

/-- The finding is the first failed blocker among findings. -/
def IsFirstBlocker (findings : List Finding) (blocker : Finding) : Prop :=
  blocker.isFailedBlocker = true ∧ ∃ before behind, findings = before ++ blocker :: behind
    ∧ ∀ f ∈ before, f.isFailedBlocker = false

theorem isFirstRecord_iff {findings : List Finding} :
    IsFirstRecord records stage findings
      ↔ records.find? (fun record => decide (record.1 = stage)) = some (stage, findings) := by
  rw [List.find?_eq_some_iff_append]
  simp [IsFirstRecord]

theorem isFirstBlocker_iff {findings : List Finding} {blocker : Finding} :
    IsFirstBlocker findings blocker ↔ findings.find? Finding.isFailedBlocker = some blocker := by
  rw [List.find?_eq_some_iff_append]
  simp [IsFirstBlocker]

/-- A gate finds the first failed blocker of the first record of its stage. -/
theorem haltingBlocker?_eq_some_iff {blocker : Finding} :
    (ofRecords records).haltingBlocker? stage = some blocker
      ↔ ∃ findings, IsFirstRecord records stage findings ∧ IsFirstBlocker findings blocker := by
  simp only [isFirstRecord_iff, isFirstBlocker_iff]
  rw [haltingBlocker?_ofRecords, Option.bind_eq_some_iff]
  constructor
  · rintro ⟨⟨name, findings⟩, hrecord, hblocker⟩
    have hname : name = stage := by simpa using List.find?_some hrecord
    subst hname
    exact ⟨findings, hrecord, hblocker⟩
  · rintro ⟨findings, hrecord, hblocker⟩
    exact ⟨(stage, findings), hrecord, hblocker⟩

/-- A gate finds nothing if its stage was not recorded, or if no blocker failed in its first record. -/
theorem haltingBlocker?_eq_none_iff :
    (ofRecords records).haltingBlocker? stage = none
      ↔ ∀ findings, IsFirstRecord records stage findings → ∀ f ∈ findings, f.isFailedBlocker = false := by
  simp only [isFirstRecord_iff]
  rw [haltingBlocker?_ofRecords, Option.bind_eq_none_iff]
  constructor
  · intro h findings hrecord f hf
    exact Bool.eq_false_iff.mpr (List.find?_eq_none.mp (h (stage, findings) hrecord) f hf)
  · rintro h ⟨name, findings⟩ hrecord
    have hname : name = stage := by simpa using List.find?_some hrecord
    subst hname
    exact List.find?_eq_none.mpr fun f hf => Bool.eq_false_iff.mp (h findings hrecord f hf)

/-- What is in a slice stands at one of the positions of its span. -/
theorem exists_position_of_mem_slice {span : Span} {f : Finding} (hf : f ∈ ledger.slice span) :
    ∃ position, span.Covers position ∧ ledger.findings[position]? = some f := by
  obtain ⟨offset, hoffset⟩ := List.mem_iff_getElem?.mp hf
  rw [slice, List.getElem?_take] at hoffset
  split_ifs at hoffset with hlength
  rw [List.getElem?_drop] at hoffset
  exact ⟨span.first + offset, ⟨Nat.le_add_right _ _, by omega⟩, hoffset⟩

/-- **A blocker is charged to the stage that made it.** It stands at a position of the ledger that belongs to a
span of the stage and to no other span. -/
theorem exists_position_of_haltingBlocker? (h : ledger.Keeps records) {blocker : Finding}
    (hblocker : ledger.haltingBlocker? stage = some blocker) :
    ∃ position, ledger.findings[position]? = some blocker
      ∧ ∀ span ∈ ledger.spans, span.Covers position → span.stage = stage := by
  obtain ⟨span, hspan, hfound⟩ := Option.bind_eq_some_iff.mp hblocker
  have hmem : span ∈ ledger.spans := List.mem_of_find?_eq_some hspan
  have hstage : span.stage = stage := by simpa using List.find?_some hspan
  obtain ⟨position, hcovers, hposition⟩ := exists_position_of_mem_slice (List.mem_of_find?_eq_some hfound)
  obtain ⟨-, -, hlast⟩ := h.tiles.in_range hmem
  obtain ⟨only, -, hunique⟩ :=
    h.tiles.existsUnique_covers (Nat.zero_le position) (Nat.lt_of_lt_of_le hcovers.2 hlast)
  refine ⟨position, hposition, fun other hother hcovers' => ?_⟩
  rw [hunique other ⟨hother, hcovers'⟩, ← hunique span ⟨hmem, hcovers⟩, hstage]

/-! ## Every run of records -/

/-- **What a ledger says after any run of records.** The spans tile the findings in the order of the records, so
all of them are in range and every position belongs to exactly one. Each of them cuts out exactly the findings
of its record. A gate finds the first failed blocker of the first record of its stage, or nothing if there is
none, and never a finding of another stage. The trace has all findings in order, and the stages in the order of
the records. -/
theorem ofRecords_tiled (records : List (Stage × List Finding)) :
    let ledger := ofRecords records
    Tiles 0 ledger.findings.length ledger.spans
      ∧ (∀ span ∈ ledger.spans, span.first ≤ span.last ∧ span.last ≤ ledger.findings.length)
      ∧ (∀ position < ledger.findings.length, ∃! span, span ∈ ledger.spans ∧ span.Covers position)
      ∧ ledger.spans.map (fun span => (span.stage, ledger.slice span)) = records
      ∧ (∀ stage blocker, ledger.haltingBlocker? stage = some blocker
          ↔ ∃ findings, IsFirstRecord records stage findings ∧ IsFirstBlocker findings blocker)
      ∧ (∀ stage, ledger.haltingBlocker? stage = none
          ↔ ∀ findings, IsFirstRecord records stage findings →
              ∀ f ∈ findings, f.isFailedBlocker = false)
      ∧ (∀ stage blocker, ledger.haltingBlocker? stage = some blocker →
          ∃ position, ledger.findings[position]? = some blocker
            ∧ ∀ span ∈ ledger.spans, span.Covers position → span.stage = stage)
      ∧ ∀ halt timestamp fingerprint,
          (ledger.trace halt timestamp fingerprint).findings = records.flatMap Prod.snd
            ∧ (ledger.trace halt timestamp fingerprint).stages = records.map Prod.fst := by
  intro ledger
  have hkeeps : ledger.Keeps records := keeps_ofRecords records
  refine ⟨hkeeps.tiles, fun span hspan => (hkeeps.tiles.in_range hspan).2, ?_, hkeeps.slices,
    fun _ _ => haltingBlocker?_eq_some_iff, fun _ => haltingBlocker?_eq_none_iff,
    fun _ _ => exists_position_of_haltingBlocker? hkeeps, fun _ _ _ => ⟨hkeeps.findings, ?_⟩⟩
  · intro position hposition
    exact hkeeps.tiles.existsUnique_covers (Nat.zero_le position) hposition
  · exact stages_ofRecords records

end Ledger

end Appraisal
