/-
What does not count in the way a value is presented.

A decoder knows what it expects at every place, and how much freedom it leaves there. The `Form` of a place says
so without the decoder: a record has its fields, each with a form of its own and with the value that it stands for
when it is left out; a set is a list in any order; nobody reads what stands under an unknown name.

`Change` is one change of presentation, somewhere inside a tree. Members are put in another order, an unknown
member is inserted, a field is written out that was left out, a set is listed in another way, a coverage is
respelled. A decoder honours a form when it takes no notice of such a change: what it reads before it also reads
afterwards, and the other way round. Here are the laws of single values, of sets and of coverages.
-/
import Mathlib.Data.List.Perm.Basic
import Appraisal.Deal.Format
import Appraisal.Proofs.Reading
import Appraisal.Proofs.Success

set_option autoImplicit false

namespace Appraisal.Json

/-! ## Forms -/

/-- What is expected at a place, as far as it matters to how a value can be presented there. -/
inductive Form where
  /-- The value is passed over. -/
  | passedOver
  /-- A word, a text, a number or a Boolean. -/
  | single
  /-- A coverage. -/
  | coverage
  /-- A set of words. -/
  | set
  /-- A record: its fields in order, each with its name, its form and what it stands for when it is left out. -/
  | record (fields : List (String × Form × Option Node))

namespace Form

/-- Can a member with this name be inserted into an object? -/
def Ignores : Form → String → Prop
  | .passedOver, _ => True
  | .record fields, name => name ∉ fields.map Prod.fst
  | _, _ => False

/-- The form of the value of a member. -/
def under : Form → Quotation → Option Form
  | .passedOver, _ => some .passedOver
  | .record fields, .ok name => some (((fields.lookup name).map Prod.fst).getD .passedOver)
  | _, _ => none

/-- The form of an item of an array. A record can be written as the array of its fields. -/
def at? : Form → Nat → Option Form
  | .passedOver, _ => some .passedOver
  | .record fields, position => fields[position]?.map fun field => field.2.1
  | _, _ => none

end Form

/-! ## Changes -/

/-- One change of presentation. -/
inductive Change : Form → Node → Node → Prop
  /-- The members of an object in another order. -/
  | permute {form : Form} {members others : List (Quotation × Node)} : members.Perm others →
      Change form (.object members .closed) (.object others .closed)
  /-- A member with a name that means nothing, and any value that has a text. -/
  | insert {form : Form} {members : List (Quotation × Node)} {name : String} {value : Node} {cs : List Char} :
      form.Ignores name → Spells value cs →
      Change form (.object members .closed) (.object ((.ok name, value) :: members) .closed)
  /-- A field that was left out. -/
  | writeOut {fields : List (String × Form × Option Node)} {members : List (Quotation × Node)} {name : String}
      {form : Form} {value : Node} : (name, form, some value) ∈ fields → .ok name ∉ members.map Prod.fst →
      Change (.record fields) (.object members .closed) (.object ((.ok name, value) :: members) .closed)
  /-- A field that was left out at the end of an array. -/
  | writeOutLast {fields : List (String × Form × Option Node)} {items : List Node} {name : String}
      {form : Form} {value : Node} : fields[items.length]? = some (name, form, some value) →
      Change (.record fields) (.array items .closed) (.array (items ++ [value]) .closed)
  /-- The same words in another order and with other repetitions. -/
  | regroup {items others : List Node} : (∀ item, item ∈ items ↔ item ∈ others) →
      Change .set (.array items .closed) (.array others .closed)
  /-- Other blanks around a word and other capitals in it. -/
  | respell {before behind before' behind' word word' : List Char} :
      (∀ c ∈ before ++ behind ++ before' ++ behind', Text.isBlank c = true) →
      word.map Char.toLower = word'.map Char.toLower →
      Change .coverage (.string (.ok (.ofList (before ++ word ++ behind))))
        (.string (.ok (.ofList (before' ++ word' ++ behind'))))
  /-- A change inside a member. -/
  | member {form inner : Form} {before behind : List (Quotation × Node)} {key : Quotation} {value other : Node} :
      form.under key = some inner → Change inner value other →
      Change form (.object (before ++ (key, value) :: behind) .closed)
        (.object (before ++ (key, other) :: behind) .closed)
  /-- A change inside an item. -/
  | item {form inner : Form} {before behind : List Node} {value other : Node} :
      form.at? before.length = some inner → Change inner value other →
      Change form (.array (before ++ value :: behind) .closed) (.array (before ++ other :: behind) .closed)

/-- Nothing inside such a value is presented in a way of its own. -/
def Form.IsLeaf : Form → Prop
  | .single | .coverage | .set => True
  | .passedOver | .record _ => False

namespace Form.IsLeaf

variable {form : Form}

theorem not_ignores (h : form.IsLeaf) (name : String) : ¬form.Ignores name := by
  cases form with
  | passedOver | record => cases h
  | single | coverage | set => exact id

theorem under_eq_none (h : form.IsLeaf) (key : Quotation) : form.under key = none := by
  cases form with
  | passedOver | record => cases h
  | single | coverage | set => rfl

theorem at?_eq_none (h : form.IsLeaf) (position : Nat) : form.at? position = none := by
  cases form with
  | passedOver | record => cases h
  | single | coverage | set => rfl

end Form.IsLeaf

/-- What a change can be that is not inside a record: another order of members, which only matters to a word that
is written as an object, another list of the same words, or another spelling of a coverage. -/
theorem Change.leaf_cases {form : Form} {node other : Node} (h : Change form node other) (hleaf : form.IsLeaf) :
    (∃ members others, members.Perm others ∧ node = .object members .closed ∧ other = .object others .closed)
      ∨ (form = .set ∧ ∃ items others, (∀ item, item ∈ items ↔ item ∈ others)
          ∧ node = .array items .closed ∧ other = .array others .closed)
      ∨ (form = .coverage ∧ ∃ before behind before' behind' word word' : List Char,
          (∀ c ∈ before ++ behind ++ before' ++ behind', Text.isBlank c = true)
          ∧ word.map Char.toLower = word'.map Char.toLower
          ∧ node = .string (.ok (.ofList (before ++ word ++ behind)))
          ∧ other = .string (.ok (.ofList (before' ++ word' ++ behind')))) := by
  cases h with
  | permute hperm => exact Or.inl ⟨_, _, hperm, rfl, rfl⟩
  | regroup hsame => exact Or.inr (Or.inl ⟨rfl, _, _, hsame, rfl, rfl⟩)
  | respell hblank hword => exact Or.inr (Or.inr ⟨rfl, _, _, _, _, _, _, hblank, hword, rfl, rfl⟩)
  | writeOut | writeOutLast => cases hleaf
  | insert hignored => exact absurd hignored (hleaf.not_ignores _)
  | member hinner => rw [hleaf.under_eq_none] at hinner; cases hinner
  | item hinner => rw [hleaf.at?_eq_none] at hinner; cases hinner

/-! ## What is passed over -/

theorem membersFault?_eq_none {members : List (Quotation × Node)} :
    membersFault? members = none ↔ ∀ member ∈ members, member.2.fault? = none := by
  induction members with
  | nil => simp [membersFault?]
  | cons member members ih => simp [membersFault?, ih]

theorem itemsFault?_eq_none {items : List Node} :
    itemsFault? items = none ↔ ∀ item ∈ items, item.fault? = none := by
  induction items with
  | nil => simp [itemsFault?]
  | cons item items ih => simp [itemsFault?, ih]

theorem fault?_object {members : List (Quotation × Node)} :
    (Node.object members .closed).fault? = none ↔ ∀ member ∈ members, member.2.fault? = none := by
  rw [← membersFault?_eq_none, Node.fault?]
  simp [ObjectEnd.fault?]

theorem fault?_array {items : List Node} :
    (Node.array items .closed).fault? = none ↔ ∀ item ∈ items, item.fault? = none := by
  rw [← itemsFault?_eq_none, Node.fault?]
  simp [ArrayEnd.fault?]

/-- What is passed over stays free of faults. -/
theorem Change.fault?_iff {node other : Node} (h : Change .passedOver node other) :
    node.fault? = none ↔ other.fault? = none := by
  -- the induction is on the change, and every change inside something passed over is one of the same kind
  generalize hform : Form.passedOver = form at h
  induction h with
  | permute hperm =>
      simp only [fault?_object, hperm.mem_iff]
  | insert _ hvalue => simp [fault?_object, hvalue.fault?_eq_none]
  | writeOut | writeOutLast | regroup | respell => cases hform
  | member hinner _ ih =>
      subst hform
      have hchanged := ih (Option.some.inj hinner)
      simp only [fault?_object, List.forall_mem_append, List.forall_mem_cons, hchanged]
  | item hinner _ ih =>
      subst hform
      have hchanged := ih (Option.some.inj hinner)
      simp only [fault?_array, List.forall_mem_append, List.forall_mem_cons, hchanged]

/-! ## Honouring a form -/

/-- The decoder takes no notice of a change of presentation. -/
def Honours {α : Type} (form : Form) (decode : Decoder α) : Prop :=
  ∀ node other, Change form node other → ∀ a, decode .direct node = .ok a ↔ decode .direct other = .ok a

section Laws

variable {α β : Type}

/-- An object of at most one member has no other order of members. -/
theorem decode_object_perm {decode : Decoder α}
    (hobject : ∀ members a, decode .direct (.object members .closed) = .ok a → members.length ≤ 1)
    {members others : List (Quotation × Node)} (hperm : members.Perm others) {a : α}
    (ha : decode .direct (.object members .closed) = .ok a) :
    decode .direct (.object others .closed) = .ok a := by
  have hlength := hobject members a ha
  match members, hperm, ha with
  | [], hperm, ha => rwa [hperm.nil_eq.symm]
  | [member], hperm, ha => rwa [List.singleton_perm.mp hperm |>.symm]
  | _ :: _ :: _, _, _ => simp at hlength

/-- A decoder that reads no object with two members honours the form of single values. -/
theorem honours_single {decode : Decoder α}
    (hobject : ∀ members a, decode .direct (.object members .closed) = .ok a → members.length ≤ 1) :
    Honours .single decode := by
  intro node other h a
  obtain ⟨members, others, hperm, rfl, rfl⟩ | ⟨hform, -⟩ | ⟨hform, -⟩ := h.leaf_cases trivial
  · exact ⟨decode_object_perm hobject hperm, decode_object_perm hobject hperm.symm⟩
  · cases hform
  · cases hform

theorem honours_word [Vocabulary α] : Honours .single (decode : Decoder α) := by
  refine honours_single fun members a ha => ?_
  obtain ⟨key, rfl, -⟩ := word_object_eq_ok.mp ha
  exact le_rfl

theorem honours_string : Honours .single (decode : Decoder String) :=
  honours_single fun _ _ ha => by cases ha

theorem honours_bool : Honours .single (decode : Decoder Bool) :=
  honours_single fun _ _ ha => by cases ha

theorem honours_float : Honours .single (decode : Decoder Float) :=
  honours_single fun _ _ ha => by cases ha

theorem honours_count : Honours .single (decode : Decoder UInt32) :=
  honours_single fun _ _ ha => by cases ha

/-- Only containers and strings change, and none of them is `null`. -/
theorem nullable_of_change {form : Form} {node other : Node} (h : Change form node other) (decode : Decoder α) :
    Decoder.nullable decode .direct node = (decode .direct node).map some
      ∧ Decoder.nullable decode .direct other = (decode .direct other).map some := by
  cases h <;> exact ⟨rfl, rfl⟩

/-- A value that may be `null` can be presented as if it were not. -/
theorem Honours.nullable {form : Form} {decode : Decoder α} (h : Honours form decode) :
    Honours form (Decoder.nullable decode) := by
  intro node other hchange a
  obtain ⟨hnode, hother⟩ := nullable_of_change hchange decode
  simp only [hnode, hother, map_eq_ok, h node other hchange]

/-! ## Sets -/

/-- A list holds what one of its items is read as. -/
theorem mem_iff_of_forall₂ {decode : Decoder α} {items : List Node} {as : List α}
    (h : List.Forall₂ (fun item a => decode .direct item = .ok a) items as) (a : α) :
    a ∈ as ↔ ∃ item ∈ items, decode .direct item = .ok a := by
  induction h with
  | nil => simp
  | cons hitem _ ih => simp [hitem, ih, eq_comm]

theorem exists_forall₂ {decode : Decoder α} {items : List Node}
    (h : ∀ item ∈ items, ∃ a, decode .direct item = .ok a) :
    ∃ as, List.Forall₂ (fun item a => decode .direct item = .ok a) items as := by
  induction items with
  | nil => exact ⟨[], .nil⟩
  | cons item items ih =>
      obtain ⟨⟨a, ha⟩, hitems⟩ := List.forall_mem_cons.mp h
      obtain ⟨as, has⟩ := ih hitems
      exact ⟨a :: as, .cons ha has⟩

/-- Two lists of the same items are read as lists with the same members. -/
theorem exists_forall₂_of_regroup {decode : Decoder α} {items others : List Node}
    (hsame : ∀ item, item ∈ items ↔ item ∈ others) {as : List α}
    (h : List.Forall₂ (fun item a => decode .direct item = .ok a) items as) :
    ∃ bs, List.Forall₂ (fun item a => decode .direct item = .ok a) others bs ∧ ∀ a, a ∈ as ↔ a ∈ bs := by
  have hread : ∀ item ∈ others, ∃ a, decode .direct item = .ok a := by
    intro item hitem
    obtain ⟨i, hi, rfl⟩ := List.mem_iff_getElem.mp ((hsame item).mpr hitem)
    exact ⟨_, (List.forall₂_iff_get.mp h).2 i hi (h.length_eq ▸ hi)⟩
  obtain ⟨bs, hbs⟩ := exists_forall₂ hread
  refine ⟨bs, hbs, fun a => ?_⟩
  simp only [mem_iff_of_forall₂ h, mem_iff_of_forall₂ hbs, hsame]

theorem selection_array [Vocabulary α] [BEq α] {items : List Node} {s : Selection α} :
    (decode : Decoder (Selection α)) .direct (.array items .closed) = .ok s
      ↔ ∃ as, List.Forall₂ (fun item a => (decode : Decoder α) .direct item = .ok a) items as
          ∧ Selection.ofList as = s := by
  show (Decoder.list Decoder.word .direct (.array items .closed)).map Selection.ofList = .ok s ↔ _
  rw [map_eq_ok]
  simp only [list_eq_ok, and_true]
  rfl

/-- The selection of a list depends only on its members. -/
theorem ofList_congr [BEq α] [LawfulBEq α] {as bs : List α} (h : ∀ a, a ∈ as ↔ a ∈ bs) :
    Selection.ofList as = Selection.ofList bs := by
  ext a
  rw [Bool.eq_iff_iff]
  simp [Selection.ofList, h]

/-- A set is read alike from every list of the same words. -/
theorem honours_selection [Vocabulary α] [BEq α] [LawfulBEq α] :
    Honours .set (decode : Decoder (Selection α)) := by
  intro node other h s
  obtain ⟨_, _, -, rfl, rfl⟩ | ⟨-, items, others, hsame, rfl, rfl⟩ | ⟨hform, -⟩ := h.leaf_cases trivial
  · exact iff_of_false (fun hs => by cases hs) (fun hs => by cases hs)
  · simp only [selection_array]
    constructor
    · rintro ⟨as, has, rfl⟩
      obtain ⟨bs, hbs, hmem⟩ := exists_forall₂_of_regroup hsame has
      exact ⟨bs, hbs, (ofList_congr hmem).symm⟩
    · rintro ⟨bs, hbs, rfl⟩
      obtain ⟨as, has, hmem⟩ := exists_forall₂_of_regroup (fun item => (hsame item).symm) hbs
      exact ⟨as, has, (ofList_congr hmem).symm⟩
  · cases hform

/-! ## Coverages -/

theorem isBlank_of_bounds {c : Char} (hlow : 33 ≤ c.toNat) (hhigh : c.toNat ≤ 0x84) :
    Text.isBlank c = false := by
  simp [Text.isBlank, Text.inRanges, Text.blankRanges]
  omega

/-- Capitals are no blanks, and neither are the small letters that they become. -/
theorem isBlank_toLower (c : Char) : Text.isBlank c.toLower = Text.isBlank c := by
  unfold Char.toLower
  split_ifs with hcapital
  · have hlow : 65 ≤ c.toNat := UInt32.le_iff_toNat_le.mp hcapital.1
    have hhigh : c.toNat ≤ 90 := UInt32.le_iff_toNat_le.mp hcapital.2
    have hsmall : (c.val + ('a'.val - 'A'.val)).toNat = c.toNat + 32 := by
      have hval : c.val.toNat = c.toNat := rfl
      have hstep : ('a'.val - 'A'.val).toNat = 32 := rfl
      rw [UInt32.toNat_add, hval, hstep]
      exact Nat.mod_eq_of_lt (by omega)
    rw [isBlank_of_bounds (c := c) (by omega) (by omega)]
    exact isBlank_of_bounds (by rw [Char.toNat, hsmall]; omega) (by rw [Char.toNat, hsmall]; omega)
  · rfl

/-- Blanks around a word are trimmed. -/
theorem trimChars_append {before word behind : List Char} (hbefore : ∀ c ∈ before, Text.isBlank c = true)
    (hbehind : ∀ c ∈ behind, Text.isBlank c = true) :
    Text.trimChars (before ++ word ++ behind) = Text.trimChars word := by
  have hreverse : ∀ c ∈ behind.reverse, Text.isBlank c = true := fun c hc => hbehind c (List.mem_reverse.mp hc)
  have hnone : behind.dropWhile Text.isBlank = [] := by
    rw [← List.append_nil behind, List.dropWhile_append_of_pos hbehind, List.dropWhile_nil]
  rw [Text.trimChars, Text.trimChars, List.append_assoc, List.dropWhile_append_of_pos hbefore,
    List.dropWhile_append]
  split_ifs with hempty
  · -- the word is blank too, and nothing is left
    rw [hnone, List.isEmpty_iff.mp hempty]
  · rw [List.reverse_append, List.dropWhile_append_of_pos hreverse]

theorem map_toLower_trimChars (cs : List Char) :
    (Text.trimChars cs).map Char.toLower = Text.trimChars (cs.map Char.toLower) := by
  have hblank : Text.isBlank ∘ Char.toLower = Text.isBlank := funext isBlank_toLower
  simp only [Text.trimChars, List.dropWhile_map, hblank, ← List.map_reverse]

/-- Only the small letters of the word between the blanks are left. -/
theorem lower_trim_append {before word behind : List Char} (hbefore : ∀ c ∈ before, Text.isBlank c = true)
    (hbehind : ∀ c ∈ behind, Text.isBlank c = true) :
    Text.lower (Text.trim (.ofList (before ++ word ++ behind)))
      = .ofList (Text.trimChars (word.map Char.toLower)) := by
  rw [Text.lower, Text.trim, String.toList_ofList, String.toList_ofList, trimChars_append hbefore hbehind,
    map_toLower_trimChars]

/-- A coverage is read alike whatever blanks stand around its word and whatever the case of its letters. -/
theorem honours_coverage : Honours .coverage (decode : Decoder Coverage) := by
  intro node other h a
  obtain ⟨_, _, -, rfl, rfl⟩ | ⟨hform, -⟩
    | ⟨-, before, behind, before', behind', word, word', hblank, hword, rfl, rfl⟩ := h.leaf_cases trivial
  · exact iff_of_false (fun ha => by cases ha) (fun ha => by cases ha)
  · cases hform
  · simp only [List.forall_mem_append] at hblank
    obtain ⟨⟨⟨hbefore, hbehind⟩, hbefore'⟩, hbehind'⟩ := hblank
    show Coverage.decoder .direct (.string (.ok _)) = .ok a ↔ Coverage.decoder .direct (.string (.ok _)) = .ok a
    rw [Coverage.decoder, Coverage.decoder, lower_trim_append hbefore hbehind,
      lower_trim_append hbefore' hbehind', hword]

end Laws

end Appraisal.Json
