/-
The compact summary of a trace, read as a line of a log.

A log has one line an evaluation, so a line feed or a carriage return inside a summary makes one record look
like two. The summary is put together from texts of many origins. All of them are on one line, whatever the deal
says: the fingerprint is hexadecimal, the numbers are digits, the stage and the rule of a halt come from the
catalog. What is left is the timestamp, which is the caller's, and so the summary is on one line exactly if the
timestamp is (`isOneLine_compactSummary`).

Admission does look at the timestamp, and no step of reading one passes over a line break
(`isOneLine_of_check`). But it looks at the text without the blanks around it, and the trace keeps the text as it
was given. So what can break the line are the blanks around an admitted timestamp, and nothing else.
-/
import Mathlib.Data.Bool.AllAny
import Mathlib.Data.List.TakeWhile
import Mathlib.Tactic.FinCases
import Appraisal.Admission
import Appraisal.Proofs.Gates
import Appraisal.Proofs.LookupPath
import Appraisal.Proofs.NumberText
import Appraisal.Proofs.Published
import Appraisal.Proofs.Success
import Appraisal.Proofs.TextBytes

set_option autoImplicit false

namespace Appraisal

/-! ## Lines -/

namespace Text

/-- A text on one line has neither a line feed nor a carriage return. -/
def IsOneLine (text : String) : Prop :=
  ∀ c ∈ text.toList, c ≠ '\n' ∧ c ≠ '\r'

theorem isOneLine_append (text behind : String) :
    IsOneLine (text ++ behind) ↔ IsOneLine text ∧ IsOneLine behind := by
  rw [IsOneLine, String.toList_append, List.forall_mem_append, IsOneLine, IsOneLine]

theorem IsOneLine.append {text behind : String} (h : IsOneLine text) (h' : IsOneLine behind) :
    IsOneLine (text ++ behind) :=
  (isOneLine_append text behind).mpr ⟨h, h'⟩

/-- A fixed text is looked at character by character. -/
theorem IsOneLine.literal {cs : List Char} (h : (cs.all fun c => c ≠ '\n' ∧ c ≠ '\r') = true) :
    IsOneLine (String.ofList cs) := by
  rw [IsOneLine, String.toList_ofList]
  exact List.all_iff_forall_prop.mp h

/-- An entry of a line: a label and a value. -/
theorem IsOneLine.entry {front value : String} {label : List Char} (hfront : IsOneLine front)
    (hlabel : (label.all fun c => c ≠ '\n' ∧ c ≠ '\r') = true) (hvalue : IsOneLine value) :
    IsOneLine (front ++ String.ofList label ++ value) :=
  (hfront.append (.literal hlabel)).append hvalue

/-- What trimming takes off a text are blanks at its two ends. -/
theorem exists_blanks_trim (text : String) :
    ∃ before behind : String, (∀ c ∈ before.toList, isBlank c = true)
      ∧ (∀ c ∈ behind.toList, isBlank c = true) ∧ text = before ++ trim text ++ behind := by
  let rest := text.toList.dropWhile isBlank
  refine ⟨.ofList (text.toList.takeWhile isBlank), .ofList (rest.reverse.takeWhile isBlank).reverse,
    ?_, ?_, ?_⟩
  · intro c hc
    rw [String.toList_ofList] at hc
    exact List.mem_takeWhile_imp hc
  · intro c hc
    rw [String.toList_ofList, List.mem_reverse] at hc
    exact List.mem_takeWhile_imp hc
  · -- the blanks behind are at the front of the rest read backwards
    have hrest : (rest.reverse.dropWhile isBlank).reverse ++ (rest.reverse.takeWhile isBlank).reverse
        = rest := by
      rw [← List.reverse_append, List.takeWhile_append_dropWhile, List.reverse_reverse]
    rw [← String.toList_inj]
    simp only [String.toList_append, String.toList_ofList, trim, trimChars, List.append_assoc]
    rw [hrest, List.takeWhile_append_dropWhile]

theorem isOneLine_nat (n : Nat) : IsOneLine (toString n) := by
  intro c hc
  rw [show toString n = n.repr from rfl, Nat.toList_repr] at hc
  have hdigit := Decimal.isDigit_of_mem_digits (n := n) hc
  constructor <;> rintro rfl <;> exact absurd hdigit (by decide)

end Text

open Text

theorem Deal.isOneLine_fingerprint (deal : Deal) : IsOneLine deal.fingerprint := by
  intro c hc
  rw [fingerprint, Web.toList_hex, List.mem_map] at hc
  obtain ⟨place, -, rfl⟩ := hc
  have hdigit : ∀ d : Fin 16, Nat.digitChar d ≠ '\n' ∧ Nat.digitChar d ≠ '\r' := by decide
  exact hdigit ⟨_, Nat.mod_lt _ (by decide)⟩

/-! ## Reading a timestamp -/

namespace Timestamp

/-- A byte that stays on its line. -/
def IsInLine (b : UInt8) : Prop :=
  b ≠ byte '\n' ∧ b ≠ byte '\r'

instance (b : UInt8) : Decidable (IsInLine b) :=
  inferInstanceAs (Decidable (_ ∧ _))

/-- A step of reading that never passes over a line break: the bytes that it takes off the front stay on their
line. -/
def StaysInLine {α : Type} (reading : Reading α) : Prop :=
  ∀ bytes value rest, reading bytes = .ok (value, rest) →
    ∃ taken, bytes = taken ++ rest ∧ ∀ b ∈ taken, IsInLine b

namespace StaysInLine

variable {α β : Type} {reading : Reading α}

/-- A step that takes nothing. -/
theorem pure (value : α) : StaysInLine (pure value : Reading α) := by
  rintro bytes _ _ ⟨⟩
  exact ⟨[], rfl, nofun⟩

/-- A step that only looks at what comes next. -/
theorem get : StaysInLine (MonadState.get : Reading Bytes) := by
  rintro bytes _ _ ⟨⟩
  exact ⟨[], rfl, nofun⟩

/-- A step that ends in a fault. -/
theorem throw (fault : Fault) : StaysInLine (MonadExcept.throw fault : Reading α) :=
  fun _ _ _ h => nomatch h

/-- One step after the other. -/
theorem bind {next : α → Reading β} (h : StaysInLine reading) (hnext : ∀ value, StaysInLine (next value)) :
    StaysInLine (reading >>= next) := by
  intro bytes value rest hread
  obtain ⟨⟨first, middle⟩, hfirst, hsecond⟩ := Json.bind_eq_ok.mp hread
  obtain ⟨taken, rfl, htaken⟩ := h _ _ _ hfirst
  obtain ⟨more, rfl, hmore⟩ := hnext first _ _ _ hsecond
  refine ⟨taken ++ more, (List.append_assoc ..).symm, fun b hb => ?_⟩
  rcases List.mem_append.mp hb with hb | hb
  · exact htaken b hb
  · exact hmore b hb

/-- A step behind a check, which ends in a fault or takes nothing. -/
theorem behindCheck {condition : Prop} [Decidable condition] {fault : Fault} {next : Unit → Reading α}
    (h : StaysInLine (next ())) :
    StaysInLine (if condition then (MonadExcept.throw fault : Reading Unit) >>= next else next ()) := by
  split_ifs
  · exact bind (throw fault) fun _ => h
  · exact h

/-- A check at the end. -/
theorem check {condition : Prop} [Decidable condition] {fault : Fault} :
    StaysInLine (if condition then MonadExcept.throw fault else Pure.pure () : Reading Unit) := by
  split_ifs
  · exact throw fault
  · exact pure ()

end StaysInLine

/-- A byte is taken only if the test lets it pass. -/
theorem staysInLine_next {isAllowed : UInt8 → Bool} (h : ∀ b, isAllowed b = true → IsInLine b) :
    StaysInLine (next isAllowed) := by
  intro bytes value rest hread
  match bytes with
  | [] => exact nomatch hread
  | b :: behind =>
      rw [next] at hread
      split_ifs at hread with hallowed
      obtain ⟨rfl, rfl⟩ := Prod.mk.inj (Except.ok.inj hread)
      refine ⟨[b], rfl, fun other hother => ?_⟩
      rw [List.mem_singleton.mp hother]
      exact h b hallowed

theorem staysInLine_oneOf {allowed : List Char} (h : ((allowed.map byte).all fun b => IsInLine b) = true) :
    StaysInLine (oneOf allowed) := by
  refine .bind (staysInLine_next fun b hb => List.all_iff_forall_prop.mp h b ?_) fun _ => .pure ()
  simpa using hb

theorem isInLine_of_isDigit {b : UInt8} (hb : isDigit b = true) : IsInLine b := by
  constructor <;> rintro rfl <;> exact absurd hb (by decide)

theorem staysInLine_number (digits : Nat) : StaysInLine (number digits) := by
  induction digits with
  | zero => exact .pure 0
  | succ n ih =>
      exact .bind (staysInLine_next fun _ => isInLine_of_isDigit) fun _ => .bind ih fun _ => .pure _

theorem staysInLine_date : StaysInLine date := by
  have hhyphen : StaysInLine (oneOf ['-']) := staysInLine_oneOf (by decide)
  refine .bind (staysInLine_number 4) fun year => ?_
  refine .bind hhyphen fun _ => ?_
  refine .bind (staysInLine_number 2) fun month => ?_
  refine .bind hhyphen fun _ => ?_
  refine .bind (staysInLine_number 2) fun day => ?_
  exact .check

/-- A fraction takes its point, its first digit, and all digits behind it. -/
theorem staysInLine_fraction : StaysInLine fraction := by
  intro bytes value rest hread
  match bytes with
  | [] =>
      cases hread
      exact ⟨[], rfl, nofun⟩
  | b :: behind =>
      rw [fraction] at hread
      split_ifs at hread with hpoint
      · -- three parts are taken: the point, the digit that has to follow, and the digits behind it
        obtain ⟨⟨digit, middle⟩, hdigit, hend⟩ := Json.bind_eq_ok.mp hread
        obtain ⟨taken, rfl, htaken⟩ :=
          staysInLine_next (fun _ => isInLine_of_isDigit) _ _ _ hdigit
        obtain ⟨-, rfl⟩ := Prod.mk.inj (Except.ok.inj hend)
        refine ⟨b :: taken ++ middle.takeWhile isDigit, ?_, fun other hother => ?_⟩
        · rw [List.cons_append, List.cons_append, List.append_assoc, List.takeWhile_append_dropWhile]
        · rcases List.mem_append.mp hother with hother | hother
          · rcases List.mem_cons.mp hother with rfl | hother
            · rw [hpoint]
              decide
            · exact htaken other hother
          · exact isInLine_of_isDigit (List.mem_takeWhile_imp hother)
      · cases hread
        exact ⟨[], rfl, nofun⟩

theorem staysInLine_time : StaysInLine time := by
  have hcolon : StaysInLine (oneOf [':']) := staysInLine_oneOf (by decide)
  refine .bind (staysInLine_number 2) fun hour => ?_
  refine .bind hcolon fun _ => ?_
  refine .bind (staysInLine_number 2) fun minute => ?_
  refine .bind hcolon fun _ => ?_
  refine .bind (staysInLine_number 2) fun second => ?_
  refine .bind staysInLine_fraction fun _ => ?_
  exact .check

theorem staysInLine_sign : StaysInLine sign := by
  intro bytes value rest hread
  rw [sign.eq_def] at hread
  split at hread
  · -- the true minus sign
    obtain ⟨-, rfl⟩ := Prod.mk.inj (Except.ok.inj hread)
    exact ⟨[0xe2, 0x88, 0x92], rfl, List.all_iff_forall_prop.mp (by decide)⟩
  · exact staysInLine_oneOf (by decide) _ _ _ hread

theorem staysInLine_twoDigits : StaysInLine twoDigits := by
  refine .bind .get fun bytes => ?_
  exact .behindCheck (staysInLine_number 2)

theorem staysInLine_offset : StaysInLine offset := by
  refine .bind staysInLine_sign fun _ => ?_
  refine .bind staysInLine_twoDigits fun hours => ?_
  refine .bind (staysInLine_oneOf (by decide)) fun _ => ?_
  refine .bind staysInLine_twoDigits fun minutes => ?_
  exact .behindCheck (.pure hours)

theorem staysInLine_zone : StaysInLine zone := by
  intro bytes value rest hread
  match bytes with
  | [] => exact nomatch hread
  | b :: behind =>
      rw [zone] at hread
      split_ifs at hread with hletter
      · obtain ⟨-, rfl⟩ := Prod.mk.inj (Except.ok.inj hread)
        refine ⟨[b], rfl, fun other hother => ?_⟩
        rw [List.mem_singleton.mp hother]
        rw [Bool.or_eq_true, decide_eq_true_eq, decide_eq_true_eq] at hletter
        rcases hletter with rfl | rfl <;> decide
      · exact staysInLine_offset _ _ _ hread

theorem staysInLine_dateAndTime : StaysInLine dateAndTime := by
  refine .bind staysInLine_date fun _ => ?_
  refine .bind (staysInLine_oneOf (by decide)) fun _ => ?_
  refine .bind staysInLine_time fun _ => ?_
  exact staysInLine_zone

/-- The bytes of a character are among those of a text that holds it. -/
theorem mem_bytes {text : String} {c : Char} (hc : c ∈ text.toList) {b : UInt8}
    (hb : b ∈ String.utf8EncodeChar c) : b ∈ text.toUTF8.data.toList := by
  rw [Text.toList_toUTF8, List.mem_flatMap]
  exact ⟨c, hc, hb⟩

/-- Nothing is left of an admitted text when the date, the time and the zone have been read. -/
theorem exists_dateAndTime_of_check {text : String} (h : check text = .ok ()) :
    ∃ hours, dateAndTime text.toUTF8.data.toList = .ok (hours, []) := by
  rw [check] at h
  split_ifs at h
  · exact nomatch h
  · obtain ⟨⟨hours, rest⟩, hread, hend⟩ := Json.bind_eq_ok.mp h
    cases rest with
    | nil => exact ⟨hours, hread⟩
    | cons b behind => exact nomatch hend

/-- **A timestamp is on one line.** -/
theorem isOneLine_of_check {text : String} (h : check text = .ok ()) : IsOneLine text := by
  obtain ⟨hours, hread⟩ := exists_dateAndTime_of_check h
  obtain ⟨taken, hbytes, htaken⟩ := staysInLine_dateAndTime _ _ _ hread
  rw [List.append_nil] at hbytes
  intro c hc
  constructor
  · rintro rfl
    exact (htaken _ (hbytes ▸ mem_bytes hc (b := byte '\n') (by decide))).1 rfl
  · rintro rfl
    exact (htaken _ (hbytes ▸ mem_bytes hc (b := byte '\r') (by decide))).2 rfl

end Timestamp

/-! ## The parts of a summary -/

/-- Identifiers of published rules are on one line. -/
theorem Rule.isOneLine_id {rule : Rule} (hrule : rule ∈ catalog) : IsOneLine rule.id := by
  unfold catalog at hrule
  fin_cases hrule <;> exact .literal (by decide)

namespace Trace

/-- The summary up to the timestamp. -/
def summaryFront (trace : Trace) : String :=
  "hash=" ++ trace.fingerprint ++ " compiler=" ++ trace.evaluatorVersion
    ++ " schema=" ++ trace.schemaVersion ++ " ruleset=" ++ trace.rulesetVersion
    ++ " modules=" ++ toString trace.stages.length
    ++ " rules=" ++ toString trace.findings.length
    ++ " failed=" ++ toString trace.failures.length
    ++ " halted=" ++ trace.haltText
    ++ " at="

theorem compactSummary_eq (trace : Trace) :
    trace.compactSummary = trace.summaryFront ++ trace.timestamp := rfl

/-- The counts are digits, so the front of a summary is on one line if its other parts are. -/
theorem isOneLine_summaryFront {trace : Trace} (hfingerprint : IsOneLine trace.fingerprint)
    (hevaluator : IsOneLine trace.evaluatorVersion) (hschema : IsOneLine trace.schemaVersion)
    (hruleset : IsOneLine trace.rulesetVersion) (hhalt : IsOneLine trace.haltText) :
    IsOneLine trace.summaryFront := by
  unfold summaryFront
  -- from the last entry to the first
  refine .append ?_ (.literal (by decide))
  refine .entry ?_ (by decide) hhalt
  refine .entry ?_ (by decide) (isOneLine_nat _)
  refine .entry ?_ (by decide) (isOneLine_nat _)
  refine .entry ?_ (by decide) (isOneLine_nat _)
  refine .entry ?_ (by decide) hruleset
  refine .entry ?_ (by decide) hschema
  refine .entry ?_ (by decide) hevaluator
  exact .append (.literal (by decide)) hfingerprint

end Trace

namespace Deal

variable (deal : Deal) (timestamp : String)

/-- A halt is told by the label of a stage and the identifier of a published rule. -/
theorem isOneLine_haltText : IsOneLine (deal.evaluate timestamp).trace.haltText := by
  rw [trace_evaluate]
  cases hhalt : deal.halt? with
  | none => exact IsOneLine.literal (by decide)
  | some halt =>
      obtain ⟨gate, blocker⟩ := halt
      obtain ⟨-, hmem, -⟩ := deal.blocker_of_halt? timestamp hhalt
      obtain ⟨rule, hrule, hid, -⟩ := exists_rule_of_mem_findingsAt hmem
      have hlabel : IsOneLine gate.label := by
        cases gate <;> exact .literal (by decide)
      have hrule : IsOneLine rule.id := Rule.isOneLine_id (List.mem_filter.mp hrule).1
      show IsOneLine (gate.label ++ ":" ++ blocker.ruleId)
      rw [hid]
      exact .entry hlabel (by decide) hrule

/-- **Whatever the deal says, the summary is on one line up to its timestamp.** -/
theorem isOneLine_summaryFront : IsOneLine (deal.evaluate timestamp).trace.summaryFront := by
  have hversion : IsOneLine "1.0.0" := .literal (by decide)
  apply Trace.isOneLine_summaryFront
  · rw [trace_evaluate]
    exact deal.isOneLine_fingerprint
  · rw [trace_evaluate]
    exact hversion
  · rw [trace_evaluate]
    exact hversion
  · rw [trace_evaluate]
    exact hversion
  · exact deal.isOneLine_haltText timestamp

/-- The timestamp in a summary is the one that was given, blanks and all. -/
theorem compactSummary_evaluate :
    (deal.evaluate timestamp).trace.compactSummary
      = (deal.evaluate timestamp).trace.summaryFront ++ timestamp := by
  rw [Trace.compactSummary_eq, timestamp_trace_evaluate]

/-- A summary is on one line exactly if the timestamp is. -/
theorem isOneLine_compactSummary :
    IsOneLine (deal.evaluate timestamp).trace.compactSummary ↔ IsOneLine timestamp := by
  rw [compactSummary_evaluate, isOneLine_append]
  exact and_iff_right (deal.isOneLine_summaryFront timestamp)

/-- An admitted timestamp is on one line once the blanks around it are gone. -/
theorem isOneLine_trim_of_vet {deal : Deal} {timestamp : String} (hvet : (deal.vet timestamp).isOk = true) :
    IsOneLine (trim timestamp) := by
  obtain ⟨-, -, -, -, hvalid⟩ := (deal.isOk_vet_iff timestamp).mp hvet
  apply Timestamp.isOneLine_of_check
  rw [Timestamp.isValid] at hvalid
  cases hcheck : Timestamp.check (trim timestamp) with
  | ok _ => rfl
  | error fault =>
      rw [hcheck] at hvalid
      exact absurd hvalid Bool.false_ne_true

/-! ## Where a line can break -/

/-- **A summary breaks only at the blanks around its timestamp.** For every deal that is admitted at a timestamp,
the summary of its evaluation is the front, the blanks before the timestamp, the timestamp, and the blanks behind
it, and of these the front and the timestamp are on one line. So the summary is on one line exactly if the
timestamp as it was given is, and it always is if the blanks are taken off first. -/
theorem compactSummary_breaks_only_at_blanks {deal : Deal} {timestamp : String}
    (hvet : (deal.vet timestamp).isOk = true) :
    let summary := (deal.evaluate timestamp).trace.compactSummary
    (IsOneLine summary ↔ IsOneLine timestamp)
      ∧ (∃ front before behind : String, summary = front ++ (before ++ trim timestamp ++ behind)
          ∧ IsOneLine front ∧ IsOneLine (trim timestamp)
          ∧ (∀ c ∈ before.toList, isBlank c = true) ∧ ∀ c ∈ behind.toList, isBlank c = true)
      ∧ IsOneLine (deal.evaluate (trim timestamp)).trace.compactSummary := by
  intro summary
  have htrimmed : IsOneLine (trim timestamp) := isOneLine_trim_of_vet hvet
  have hsummary : summary = _ ++ timestamp := deal.compactSummary_evaluate timestamp
  have hfront := deal.isOneLine_summaryFront timestamp
  obtain ⟨before, behind, hbefore, hbehind, htimestamp⟩ := exists_blanks_trim timestamp
  refine ⟨deal.isOneLine_compactSummary timestamp, ?_, (deal.isOneLine_compactSummary _).mpr htrimmed⟩
  refine ⟨_, before, behind, ?_, hfront, htrimmed, hbefore, hbehind⟩
  rw [hsummary, ← htimestamp]

/-- Admission looks at a timestamp without what is blank around it, be it a space or a line feed. -/
theorem isOk_vet_blanks_around_timestamp :
    (Sample.dentedRefrigerator.deal.vet " 2025-06-01T12:00:00Z ").isOk = true
      ∧ (Sample.dentedRefrigerator.deal.vet "\n2025-06-01T12:00:00Z").isOk = true := by
  decide +kernel

/-- A timestamp with a blank before it and one behind it is admitted, and the summary stays on its line. -/
theorem dentedRefrigerator_on_one_line :
    let deal := Sample.dentedRefrigerator.deal
    (deal.vet " 2025-06-01T12:00:00Z ").isOk = true
      ∧ IsOneLine (deal.evaluate " 2025-06-01T12:00:00Z ").trace.compactSummary
      ∧ IsOneLine (trim " 2025-06-01T12:00:00Z ") := by
  intro deal
  have hvet : (deal.vet " 2025-06-01T12:00:00Z ").isOk = true := isOk_vet_blanks_around_timestamp.1
  obtain ⟨hiff, ⟨_, _, _, -, -, htrimmed, -⟩, -⟩ := compactSummary_breaks_only_at_blanks hvet
  exact ⟨hvet, hiff.mpr (.literal (by decide)), htrimmed⟩

/-- An admitted timestamp need not leave the summary on one line: with a line feed before it, the record of the
evaluation ends in front of the timestamp, and the timestamp stands on a line of its own. -/
theorem line_feed_before_timestamp :
    ¬ ∀ (deal : Deal) (timestamp : String), (deal.vet timestamp).isOk = true →
      IsOneLine (deal.evaluate timestamp).trace.compactSummary := by
  intro h
  have hline := h Sample.dentedRefrigerator.deal "\n2025-06-01T12:00:00Z" isOk_vet_blanks_around_timestamp.2
  rw [isOneLine_compactSummary] at hline
  exact absurd (hline '\n' (by decide)) (by decide)

end Deal

end Appraisal
