/-
What a ledger says after any run of records.

A ledger keeps one list of findings and, beside it, the stretches of that list that belong to the stages. A
gate asks for a finding by way of the stretches, so everything that a gate finds depends on their being
right. Here that is settled once, for every run of records, stages repeated or not and lists empty or not.

The closed form is `spans_ofRecords`: the stretches are laid end to end in the order of the records. From it
follows `haltingBlocker?_ofRecords`, the one fact that an evaluation needs: asking a ledger for the blocker
of a stage is asking the first record of that stage for its first failed blocker.
-/
import Mathlib.Data.List.Basic
import Appraisal.Ledger

set_option autoImplicit false

namespace Appraisal.Ledger

/-! ## A run of records -/

/-- The ledger after a run of records, each of them a stage with its findings. -/
def ofRecords (records : List (Stage × List Finding)) : Ledger :=
  records.foldl (fun ledger record => ledger.record record.1 record.2) empty

/-- The stretches of a run of records that is laid down from position `first` on. -/
def spansFrom (first : Nat) : List (Stage × List Finding) → List Span
  | [] => []
  | (stage, findings) :: rest =>
    ⟨stage, first, first + findings.length⟩ :: spansFrom (first + findings.length) rest

/-- Recording a run adds the findings of the run in order, and its stretches from the end of the ledger on. -/
theorem foldl_record (records : List (Stage × List Finding)) (ledger : Ledger) :
    records.foldl (fun ledger record => ledger.record record.1 record.2) ledger
      = ⟨ledger.findings ++ records.flatMap Prod.snd,
          ledger.spans ++ spansFrom ledger.findings.length records⟩ := by
  induction records generalizing ledger with
  | nil => simp [spansFrom]
  | cons record rest ih =>
      obtain ⟨stage, findings⟩ := record
      rw [List.foldl_cons, ih]
      simp [record, spansFrom]

/-- No finding is lost, repeated or moved. -/
@[simp] theorem findings_ofRecords (records : List (Stage × List Finding)) :
    (ofRecords records).findings = records.flatMap Prod.snd := by
  rw [ofRecords, foldl_record]
  simp [empty]

/-- The stretches of a run lie end to end from position `0` on. -/
theorem spans_ofRecords (records : List (Stage × List Finding)) :
    (ofRecords records).spans = spansFrom 0 records := by
  rw [ofRecords, foldl_record]
  simp [empty]

theorem map_stage_spansFrom (first : Nat) (records : List (Stage × List Finding)) :
    (spansFrom first records).map Span.stage = records.map Prod.fst := by
  induction records generalizing first with
  | nil => rfl
  | cons record rest ih => simp only [spansFrom, List.map_cons, ih]

/-- The stages stand in the ledger in the order in which they were recorded. -/
@[simp] theorem stages_ofRecords (records : List (Stage × List Finding)) :
    (ofRecords records).stages = records.map Prod.fst := by
  rw [stages, spans_ofRecords, map_stage_spansFrom]

/-! ## What a gate finds -/

/-- The search by stretches, over findings that begin with `before`. The induction is on the records with
`before` free: skipping a record moves its findings into `before`, and the stretches that are left start
where the longer `before` ends. -/
theorem find?_spansFrom (records : List (Stage × List Finding)) (stage : Stage)
    (before : List Finding) (spans : List Span) :
    (((spansFrom before.length records).find? fun span => decide (span.stage = stage)).bind
        fun span => (slice ⟨before ++ records.flatMap Prod.snd, spans⟩ span).find?
          Finding.isFailedBlocker)
      = (records.find? fun record => decide (record.1 = stage)).bind
          fun record => record.2.find? Finding.isFailedBlocker := by
  induction records generalizing before with
  | nil => rfl
  | cons record rest ih =>
      obtain ⟨name, findings⟩ := record
      by_cases hname : name = stage
      · -- the stretch of the first record cuts out exactly its findings
        have hslice : slice ⟨before ++ List.flatMap Prod.snd ((name, findings) :: rest), spans⟩
            ⟨name, before.length, before.length + findings.length⟩ = findings := by
          simp [slice]
        simp only [spansFrom, hname, List.find?_cons, decide_true, Option.bind_some]
        rw [hname] at hslice
        rw [hslice]
      · have hrest := ih (before ++ findings)
        rw [List.length_append, List.append_assoc] at hrest
        simp only [spansFrom, List.find?_cons, hname, decide_false, List.flatMap_cons]
        exact hrest

/-- **The blocker of a stage** is the first failed blocker of the first record of the stage; a stage that
was not recorded has none. -/
theorem haltingBlocker?_ofRecords (records : List (Stage × List Finding)) (stage : Stage) :
    (ofRecords records).haltingBlocker? stage
      = (records.find? fun record => decide (record.1 = stage)).bind
          fun record => record.2.find? Finding.isFailedBlocker := by
  have hledger : ofRecords records
      = ⟨[] ++ records.flatMap Prod.snd, spansFrom ([] : List Finding).length records⟩ := by
    rw [ofRecords, foldl_record]
    simp [empty]
  rw [haltingBlocker?, span?, hledger]
  exact find?_spansFrom records stage [] _

end Appraisal.Ledger
