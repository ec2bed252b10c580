/-
A record honours its form.

Two presentations of a record are read field by field, and nothing that `Change` allows makes a difference to a
field: another order of the members leaves every member under its name, an unknown name is not asked for, what is
written out is what stands for the field that was left out, and a change inside a field is left to the law of the
field. What is not a field is looked through once (`Clean`), and the changes keep it clean. So the law of a record
asks for nothing but the laws of its fields.
-/
import Mathlib.Data.List.Perm.Basic
import Appraisal.Proofs.Presentation

set_option autoImplicit false

namespace Appraisal.Json

/-! ## Reading two records -/

/-- The two readings succeed together, with the same value. -/
def Located.Alike {α : Type} (x y : Located α) : Prop :=
  ∀ a, x = .of a ↔ y = .of a

namespace Located

variable {α β : Type}

theorem Alike.both {f f' : Located (α → β)} {x x' : Located α} (hf : Alike f f') (hx : Alike x x') :
    Alike (f.both x) (f'.both x') := by
  intro b
  simp only [both_eq_of, hf _, hx _]

theorem Alike.seq {f f' : Located (α → β)} {x x' : Located α} (hf : Alike f f') (hx : Alike x x') :
    Alike (f <*> x) (f' <*> x') :=
  hf.both hx

theorem Alike.map {x x' : Located α} (hx : Alike x x') (f : α → β) : Alike (f <$> x) (f <$> x') :=
  Alike.both (fun _ => Iff.rfl) hx

end Located

/-- Is the key the name of a field? -/
def isKnown (names : List String) : Quotation → Bool
  | .ok key => key ∈ names
  | .error _ => false

/-- Members with which there is nothing wrong, apart from the values of the fields: the keys are texts, no field
occurs twice, and what stands under the other keys can be passed over. -/
structure Clean (names : List String) (members : List (Quotation × Node)) : Prop where
  texts : ∀ key ∈ members.map Prod.fst, ∃ name, key = .ok name
  distinct : ((members.map Prod.fst).filter (isKnown names)).Nodup
  unread : ∀ name value, (.ok name, value) ∈ members → name ∉ names → value.fault? = none

theorem clean_nil (names : List String) : Clean names [] :=
  ⟨by simp, by simp, by simp⟩

/-- A field in front of clean members, if it is not among them. -/
theorem clean_cons_known {names : List String} {name : String} (hname : name ∈ names) {value : Node}
    {members : List (Quotation × Node)} :
    Clean names ((.ok name, value) :: members)
      ↔ .ok name ∉ members.map Prod.fst ∧ Clean names members := by
  have hknown : isKnown names (.ok name) = true := by simpa [isKnown] using hname
  constructor
  · intro h
    have hdistinct := h.distinct
    rw [List.map_cons, List.filter_cons_of_pos hknown, List.nodup_cons, List.mem_filter, not_and] at hdistinct
    refine ⟨fun hin => hdistinct.1 hin hknown, fun key hkey => h.texts key (List.mem_cons_of_mem _ hkey),
      hdistinct.2, fun key v hmem => h.unread key v (List.mem_cons_of_mem _ hmem)⟩
  · rintro ⟨hfresh, h⟩
    refine ⟨?_, ?_, ?_⟩
    · rw [List.map_cons, List.forall_mem_cons]
      exact ⟨⟨name, rfl⟩, h.texts⟩
    · rw [List.map_cons, List.filter_cons_of_pos hknown, List.nodup_cons, List.mem_filter]
      exact ⟨fun hin => hfresh hin.1, h.distinct⟩
    · intro key v hmem hkey
      rcases List.mem_cons.mp hmem with heq | hin
      · obtain ⟨hsame, rfl⟩ := Prod.mk.inj heq
        exact absurd (Except.ok.inj hsame ▸ hname) hkey
      · exact h.unread key v hin hkey

/-- An unknown member in front of clean members, if it can be passed over. -/
theorem clean_cons_unknown {names : List String} {name : String} (hname : name ∉ names) {value : Node}
    {members : List (Quotation × Node)} :
    Clean names ((.ok name, value) :: members) ↔ value.fault? = none ∧ Clean names members := by
  have hunknown : ¬isKnown names (.ok name) = true := by simpa [isKnown] using hname
  constructor
  · intro h
    have hdistinct := h.distinct
    rw [List.map_cons, List.filter_cons_of_neg hunknown] at hdistinct
    exact ⟨h.unread name value List.mem_cons_self hname, fun key hkey => h.texts key (List.mem_cons_of_mem _ hkey),
      hdistinct, fun key v hmem => h.unread key v (List.mem_cons_of_mem _ hmem)⟩
  · rintro ⟨hvalue, h⟩
    refine ⟨?_, ?_, ?_⟩
    · rw [List.map_cons, List.forall_mem_cons]
      exact ⟨⟨name, rfl⟩, h.texts⟩
    · rw [List.map_cons, List.filter_cons_of_neg hunknown]
      exact h.distinct
    · intro key v hmem hkey
      rcases List.mem_cons.mp hmem with heq | hin
      · obtain ⟨-, rfl⟩ := Prod.mk.inj heq
        exact hvalue
      · exact h.unread key v hin hkey

/-- There is nothing stray among the members exactly when they are clean and hold nothing that was seen. -/
theorem strayMember?_eq_none {names seen : List String} {members : List (Quotation × Node)} (place : Nat) :
    Record.strayMember? names .closed place seen members = none
      ↔ Clean names members ∧ ∀ name ∈ names, name ∈ seen → .ok name ∉ members.map Prod.fst := by
  -- what was seen grows with every field, so it is general in the induction on the members
  induction members generalizing place seen with
  | nil => simp [Record.strayMember?, ObjectEnd.strictFault?, clean_nil]
  | cons member members ih =>
      obtain ⟨key | key, value⟩ := member
      · refine iff_of_false (by simp [Record.strayMember?]) fun h => ?_
        obtain ⟨name, hname⟩ := h.1.texts _ List.mem_cons_self
        cases hname
      · rw [Record.strayMember?]
        by_cases hkey : key ∈ names
        · rw [if_pos hkey, clean_cons_known hkey]
          by_cases hseen : key ∈ seen
          · rw [if_pos hseen]
            exact iff_of_false (by simp) fun h => h.2 key hkey hseen List.mem_cons_self
          · -- a field that is new here must not come again, which is what having seen it says of the rest
            rw [if_neg hseen, ih]
            constructor
            · rintro ⟨hclean, hfresh⟩
              refine ⟨⟨hfresh key hkey List.mem_cons_self, hclean⟩, fun name hname hold => ?_⟩
              rw [List.map_cons, List.mem_cons, not_or]
              refine ⟨?_, hfresh name hname (List.mem_cons_of_mem _ hold)⟩
              rintro ⟨⟩
              exact hseen hold
            · rintro ⟨⟨hnew, hclean⟩, hfresh⟩
              refine ⟨hclean, fun name hname hold => ?_⟩
              rcases List.mem_cons.mp hold with rfl | hold
              · exact hnew
              · exact fun hin => hfresh name hname hold (List.mem_cons_of_mem _ hin)
        · rw [if_neg hkey, clean_cons_unknown hkey]
          cases hvalue : value.fault? with
          | some fault => simp
          | none =>
              rw [ih]
              simp only [true_and, List.map_cons, List.mem_cons, not_or]
              refine and_congr_right fun _ => ⟨fun h name hname hold => ⟨?_, h name hname hold⟩,
                fun h name hname hold => (h name hname hold).2⟩
              rintro ⟨⟩
              exact hkey hname

/-! ## Fields -/

/-- Among clean members, the first one with the name of a field is the only one. -/
theorem find?_eq_some_iff {names : List String} {members : List (Quotation × Node)} (hclean : Clean names members)
    {name : String} (hname : name ∈ names) {value : Node} (start : Nat) :
    (∃ place, Record.find? name start members = some (place, value)) ↔ (.ok name, value) ∈ members := by
  induction members generalizing start with
  | nil => simp [Record.find?]
  | cons member members ih =>
      obtain ⟨key | key, first⟩ := member
      · obtain ⟨_, h⟩ := hclean.texts _ List.mem_cons_self
        cases h
      · rw [Record.find?]
        by_cases hkey : key = name
        · subst hkey
          have hfresh := (clean_cons_known hname).mp hclean |>.1
          rw [if_pos rfl, List.mem_cons]
          constructor
          · rintro ⟨place, hplace⟩
            rw [(Prod.mk.inj (Option.some.inj hplace)).2]
            exact Or.inl rfl
          · rintro (heq | hin)
            · exact ⟨start, by rw [(Prod.mk.inj heq).2]⟩
            · exact absurd (List.mem_map_of_mem hin) hfresh
        · have hrest : Clean names members := by
            by_cases hknown : key ∈ names
            · exact ((clean_cons_known hknown).mp hclean).2
            · exact ((clean_cons_unknown hknown).mp hclean).2
          rw [if_neg hkey, ih hrest, List.mem_cons]
          refine ⟨Or.inr, fun h => h.resolve_left fun heq => hkey ?_⟩
          exact (Except.ok.inj (Prod.mk.inj heq).1).symm

/-- The value of a field that an object leaves out. -/
def Absent.unnamed? {α : Type} : Absent α → Option α
  | .refused => none
  | .unnamed a | .replaced a => some a

section Fields

variable {α : Type} {title name : String} {names : List String} {absent : Absent α} {decode : Decoder α} {a : α}

/-- A field of an object: its value is read, or it is left out and has a value then. -/
theorem field_named {members : List (Quotation × Node)} (hclean : Clean names members) (hname : name ∈ names) :
    Record.field ⟨.direct, title, names, .named members .closed⟩ name absent decode = .of a
      ↔ (∃ value, (.ok name, value) ∈ members ∧ decode .direct value = .ok a)
        ∨ .ok name ∉ members.map Prod.fst ∧ absent.unnamed? = some a := by
  have hfind : ∀ value, _ ↔ (.ok name, value) ∈ members := fun value => find?_eq_some_iff hclean hname 0
  rw [Record.field]
  dsimp only
  -- the search stops at the first member of that name, and a clean record has no second one
  cases hfound : Record.find? name 0 members with
  | some found =>
      obtain ⟨place, value⟩ := found
      have hmem : (.ok name, value) ∈ members := (hfind value).mp ⟨place, hfound⟩
      have honly : ∀ other, (.ok name, other) ∈ members → other = value := by
        intro other hother
        obtain ⟨place', hfound'⟩ := (hfind other).mpr hother
        rw [hfound] at hfound'
        exact (Prod.mk.inj (Option.some.inj hfound')).2.symm
      have hkey : .ok name ∈ members.map Prod.fst := List.mem_map_of_mem hmem
      refine placed_eq_of.trans ⟨fun hvalue => Or.inl ⟨value, hmem, hvalue⟩, ?_⟩
      rintro (⟨other, hother, hvalue⟩ | ⟨hno, -⟩)
      · rwa [honly other hother] at hvalue
      · exact absurd hkey hno
  | none =>
      have hnone : ∀ value, (.ok name, value) ∉ members := by
        intro value hmem
        obtain ⟨place, hplace⟩ := (hfind value).mpr hmem
        rw [hfound] at hplace
        cases hplace
      have hkey : .ok name ∉ members.map Prod.fst := by
        intro hin
        obtain ⟨member, hmem, hfst⟩ := List.mem_map.mp hin
        exact hnone member.2 (hfst ▸ hmem)
      dsimp only
      constructor
      · intro h
        right
        refine ⟨hkey, ?_⟩
        cases absent <;> cases h <;> rfl
      · rintro (⟨value, hmem, -⟩ | ⟨-, habsent⟩)
        · exact absurd hmem (hnone value)
        · cases absent <;> cases habsent <;> rfl

/-- A field of an array: its item is read, or the array ends before it and the field has a value then. -/
theorem field_listed {items : List Node} :
    Record.field ⟨.direct, title, names, .listed items .closed⟩ name absent decode = .of a
      ↔ (∃ value, items[names.idxOf name]? = some value ∧ decode .direct value = .ok a)
        ∨ items[names.idxOf name]? = none ∧ absent = .replaced a := by
  rw [Record.field]
  dsimp only
  cases hitem : items[names.idxOf name]? with
  | some value =>
      exact placed_eq_of.trans (by simp)
  | none =>
      dsimp only
      cases absent with
      | refused => exact iff_of_false (fun h => by cases h) (by simp)
      | unnamed b => exact iff_of_false (fun h => by cases h) (by simp)
      | replaced b =>
          simp only [reduceCtorEq, false_and, exists_false, false_or, true_and, Absent.replaced.injEq]
          exact ⟨fun h => Except.ok.inj h, fun h => congrArg Except.ok h⟩

end Fields

/-! ## Records -/

/-- Between the two records, every field that honours its form is read alike. A field with a value for the case
that it is left out has to read that value from what the form says it stands for. -/
def FieldsAlike (fields : List (String × Form × Option Node)) (r r' : Record) : Prop :=
  ∀ name form default, (name, form, default) ∈ fields → ∀ {α : Type} (absent : Absent α) (decode : Decoder α),
    Honours form decode →
    (∀ value ∈ default, ∃ a, absent = .replaced a ∧ decode .direct value = .ok a) →
    (r.field name absent decode).Alike (r'.field name absent decode)

namespace FieldsAlike

variable {fields : List (String × Form × Option Node)} {r r' : Record} {α : Type} [Codec α]

/-- A field that has to be there. -/
theorem get (h : FieldsAlike fields r r') {name : String} {form : Form}
    (hhonours : Honours form (decode : Decoder α)) (hmem : (name, form, none) ∈ fields) :
    (r.get name : Located α).Alike (r'.get name) :=
  h name form none hmem .refused decode hhonours (by simp)

/-- A field that may be left out. -/
theorem getD (h : FieldsAlike fields r r') (node : Node) {name : String} {form : Form}
    (hhonours : Honours form (decode : Decoder α)) {a : α} (hnode : decode .direct node = .ok a)
    (hmem : (name, form, some node) ∈ fields) :
    (r.getD name a).Alike (r'.getD name a) := by
  refine h name form (some node) hmem (.replaced a) decode hhonours ?_
  rintro _ ⟨⟩
  exact ⟨a, rfl, hnode⟩

end FieldsAlike

section Laws

variable {α : Type} {title : String} {names : List String} {build : Record → Located α} {a : α}

/-- An object is read when its members are clean and its fields are. -/
theorem record_object {members : List (Quotation × Node)} :
    record title names build .direct (.object members .closed) = .ok a
      ↔ build ⟨.direct, title, names, .named members .closed⟩ = .of a ∧ Clean names members := by
  have hremainder : Record.remainder ⟨.direct, title, names, .named members .closed⟩ = .of ()
      ↔ Clean names members := by
    rw [Record.remainder]
    dsimp only
    have hstray : Record.strayMember? names .closed 0 [] members = none ↔ Clean names members := by
      simp [strayMember?_eq_none]
    rw [← hstray]
    cases hfirst : Record.strayMember? names .closed 0 [] members with
    | none => exact iff_of_true rfl rfl
    | some error => exact iff_of_false (fun h => by cases h) (by simp)
  rw [record_named, hremainder]

/-- An array is read when it is not too long and its fields are read. -/
theorem record_array {items : List Node} :
    record title names build .direct (.array items .closed) = .ok a
      ↔ build ⟨.direct, title, names, .listed items .closed⟩ = .of a ∧ items.length ≤ names.length := by
  have hremainder : Record.remainder ⟨.direct, title, names, .listed items .closed⟩ = .of ()
      ↔ items.length ≤ names.length := by
    rw [Record.remainder]
    dsimp only
    split_ifs with hshort
    · exact iff_of_true rfl hshort.le
    · cases hdrop : items.drop names.length with
      | nil => exact iff_of_true rfl (List.drop_eq_nil_iff.mp hdrop)
      | cons item rest =>
          refine iff_of_false (fun h => by cases h) fun hle => ?_
          rw [List.drop_eq_nil_iff.mpr hle] at hdrop
          cases hdrop
  rw [record_listed, hremainder]

end Laws

/-! ### The place of a field -/

section Places

variable {fields : List (String × Form × Option Node)} {name : String} {form : Form} {default : Option Node}

theorem lookup_of_mem (hnames : (fields.map Prod.fst).Nodup) (hmem : (name, form, default) ∈ fields) :
    fields.lookup name = some (form, default) := by
  induction fields with
  | nil => exact absurd hmem List.not_mem_nil
  | cons field fields ih =>
      obtain ⟨hfresh, hrest⟩ := List.nodup_cons.mp hnames
      rcases List.mem_cons.mp hmem with rfl | hin
      · exact List.lookup_cons_self
      · have hne : (name == field.1) = false := by
          rw [beq_eq_false_iff_ne]
          rintro rfl
          exact hfresh (List.mem_map.mpr ⟨_, hin, rfl⟩)
        rw [List.lookup_cons, hne]
        exact ih hrest hin

theorem getElem?_idxOf (hnames : (fields.map Prod.fst).Nodup) (hmem : (name, form, default) ∈ fields) :
    fields[(fields.map Prod.fst).idxOf name]? = some (name, form, default) := by
  obtain ⟨i, hi, hfield⟩ := List.mem_iff_getElem.mp hmem
  have hlength : i < (fields.map Prod.fst).length := by rwa [List.length_map]
  have hplace := hnames.idxOf_getElem i hlength
  rw [List.getElem_map, hfield] at hplace
  rw [hplace, List.getElem?_eq_getElem hi, hfield]

end Places

/-! ### Changes of a record -/

section Changes

variable {fields : List (String × Form × Option Node)} {title : String}

/-- The record that an object is, for its fields. -/
abbrev ofMembers (title : String) (fields : List (String × Form × Option Node))
    (members : List (Quotation × Node)) : Record :=
  ⟨.direct, title, fields.map Prod.fst, .named members .closed⟩

/-- The record that an array is, for its fields. -/
abbrev ofItems (title : String) (fields : List (String × Form × Option Node)) (items : List Node) : Record :=
  ⟨.direct, title, fields.map Prod.fst, .listed items .closed⟩

/-- The fields of an object do not depend on the order of its members. -/
theorem fieldsAlike_permute {members others : List (Quotation × Node)} (hperm : members.Perm others)
    (hclean : Clean (fields.map Prod.fst) members) (hclean' : Clean (fields.map Prod.fst) others) :
    FieldsAlike fields (ofMembers title fields members) (ofMembers title fields others) := by
  intro name form default hmem α absent decode _ _ a
  have hname : name ∈ fields.map Prod.fst := List.mem_map.mpr ⟨_, hmem, rfl⟩
  rw [field_named hclean hname, field_named hclean' hname]
  simp only [hperm.mem_iff, (hperm.map Prod.fst).mem_iff]

/-- Nor on members with other names. -/
theorem fieldsAlike_insert {members : List (Quotation × Node)} {other : String} {value : Node}
    (hother : other ∉ fields.map Prod.fst) (hclean : Clean (fields.map Prod.fst) members)
    (hclean' : Clean (fields.map Prod.fst) ((.ok other, value) :: members)) :
    FieldsAlike fields (ofMembers title fields members)
      (ofMembers title fields ((.ok other, value) :: members)) := by
  intro name form default hmem α absent decode _ _ a
  have hname : name ∈ fields.map Prod.fst := List.mem_map.mpr ⟨_, hmem, rfl⟩
  have hne : name ≠ other := by
    rintro rfl
    exact hother hname
  rw [field_named hclean hname, field_named hclean' hname]
  simp [hne]

/-- A field that is left out has the value that is written out. -/
theorem fieldsAlike_writeOut (hnames : (fields.map Prod.fst).Nodup) {members : List (Quotation × Node)}
    {other : String} {form' : Form} {node : Node} (hother : (other, form', some node) ∈ fields)
    (hfresh : .ok other ∉ members.map Prod.fst) (hclean : Clean (fields.map Prod.fst) members)
    (hclean' : Clean (fields.map Prod.fst) ((.ok other, node) :: members)) :
    FieldsAlike fields (ofMembers title fields members)
      (ofMembers title fields ((.ok other, node) :: members)) := by
  intro name form default hmem α absent decode _ hdefault a
  have hname : name ∈ fields.map Prod.fst := List.mem_map.mpr ⟨_, hmem, rfl⟩
  rw [field_named hclean hname, field_named hclean' hname]
  by_cases hsame : name = other
  · -- this is the field: before, it was left out, and now its value is the one that it had then
    subst hsame
    have hfield := lookup_of_mem hnames hother
    rw [lookup_of_mem hnames hmem] at hfield
    obtain ⟨rfl, rfl⟩ := Prod.mk.inj (Option.some.inj hfield)
    obtain ⟨b, rfl, hnode⟩ := hdefault node rfl
    have hnone : ∀ value, (.ok name, value) ∉ members :=
      fun value hin => hfresh (List.mem_map.mpr ⟨_, hin, rfl⟩)
    simp [hnone, hfresh, Absent.unnamed?, hnode]
  · simp [hsame]

/-- A change inside a member is one inside its field, if it has one. -/
theorem fieldsAlike_member (hnames : (fields.map Prod.fst).Nodup) {inner : Form}
    {before behind : List (Quotation × Node)} {key : Quotation} {value other : Node}
    (hinner : (Form.record fields).under key = some inner) (hchange : Change inner value other)
    (hclean : Clean (fields.map Prod.fst) (before ++ (key, value) :: behind))
    (hclean' : Clean (fields.map Prod.fst) (before ++ (key, other) :: behind)) :
    FieldsAlike fields (ofMembers title fields (before ++ (key, value) :: behind))
      (ofMembers title fields (before ++ (key, other) :: behind)) := by
  intro name form default hmem α absent decode hhonours _ a
  have hname : name ∈ fields.map Prod.fst := List.mem_map.mpr ⟨_, hmem, rfl⟩
  rw [field_named hclean hname, field_named hclean' hname]
  by_cases hkey : key = .ok name
  · subst hkey
    have hform : form = inner := by simpa [Form.under, lookup_of_mem hnames hmem] using hinner
    subst hform
    have hsame := hhonours value other hchange a
    simp [or_and_right, exists_or, hsame]
  · have hkey' : .ok name ≠ key := Ne.symm hkey
    simp [hkey']

/-- A change inside an item is one inside its field. -/
theorem fieldsAlike_item (hnames : (fields.map Prod.fst).Nodup) {inner : Form} {before behind : List Node}
    {value other : Node} (hinner : (Form.record fields).at? before.length = some inner)
    (hchange : Change inner value other) :
    FieldsAlike fields (ofItems title fields (before ++ value :: behind))
      (ofItems title fields (before ++ other :: behind)) := by
  intro name form default hmem α absent decode hhonours _ a
  have hplace := getElem?_idxOf hnames hmem
  rw [field_listed, field_listed]
  generalize (fields.map Prod.fst).idxOf name = place at hplace
  by_cases hhere : place = before.length
  · subst hhere
    have hform : form = inner := by simpa [Form.at?, hplace] using hinner
    subst hform
    simp [hhonours value other hchange a]
  · -- the field stands at another place, in front of the change or behind it
    have hsame : (before ++ value :: behind)[place]? = (before ++ other :: behind)[place]? := by
      rcases Nat.lt_or_gt_of_ne hhere with hlt | hgt
      · rw [List.getElem?_append_left hlt, List.getElem?_append_left hlt]
      · obtain ⟨k, rfl⟩ := Nat.exists_eq_add_of_lt hgt
        rw [List.getElem?_append_right hgt.le, List.getElem?_append_right hgt.le, Nat.add_assoc,
          Nat.add_sub_cancel_left, List.getElem?_cons_succ, List.getElem?_cons_succ]
    rw [hsame]

/-- A field that is left out at the end of an array has the value that is written out. -/
theorem fieldsAlike_writeOutLast (hnames : (fields.map Prod.fst).Nodup) {items : List Node} {other : String}
    {form' : Form} {node : Node} (hother : fields[items.length]? = some (other, form', some node)) :
    FieldsAlike fields (ofItems title fields items) (ofItems title fields (items ++ [node])) := by
  intro name form default hmem α absent decode _ hdefault a
  have hplace := getElem?_idxOf hnames hmem
  rw [field_listed, field_listed]
  generalize (fields.map Prod.fst).idxOf name = place at hplace
  rcases Nat.lt_trichotomy place items.length with hbefore | rfl | hbehind
  · rw [List.getElem?_append_left hbefore]
  · rw [hother] at hplace
    cases hplace
    obtain ⟨b, rfl, hnode⟩ := hdefault node rfl
    simp [hnode]
  · have hnone : items[place]? = none := List.getElem?_eq_none hbehind.le
    have hnone' : (items ++ [node])[place]? = none :=
      List.getElem?_eq_none (by rw [List.length_append, List.length_singleton]; omega)
    rw [hnone, hnone']

/-- Clean members stay clean. -/
theorem clean_iff_of_permute {names : List String} {members others : List (Quotation × Node)}
    (hperm : members.Perm others) : Clean names members ↔ Clean names others := by
  have hforward : ∀ {members others : List (Quotation × Node)}, members.Perm others → Clean names members →
      Clean names others := by
    intro members others hperm h
    have hkeys := hperm.map Prod.fst
    refine ⟨fun key hkey => h.texts key (hkeys.mem_iff.mpr hkey), ?_, fun name value hmem =>
      h.unread name value (hperm.mem_iff.mpr hmem)⟩
    exact (hkeys.filter _).nodup_iff.mp h.distinct
  exact ⟨hforward hperm, hforward hperm.symm⟩

theorem clean_iff_of_member {inner : Form} {before behind : List (Quotation × Node)} {key : Quotation}
    {value other : Node} (hinner : (Form.record fields).under key = some inner)
    (hchange : Change inner value other) :
    Clean (fields.map Prod.fst) (before ++ (key, value) :: behind)
      ↔ Clean (fields.map Prod.fst) (before ++ (key, other) :: behind) := by
  have hforward : ∀ {value other : Node},
      (∀ name, key = .ok name → name ∉ fields.map Prod.fst → value.fault? = none → other.fault? = none) →
      Clean (fields.map Prod.fst) (before ++ (key, value) :: behind) →
      Clean (fields.map Prod.fst) (before ++ (key, other) :: behind) := by
    intro value other hfault h
    have hkeys : (before ++ (key, other) :: behind).map Prod.fst
        = (before ++ (key, value) :: behind).map Prod.fst := by simp
    refine ⟨hkeys ▸ h.texts, hkeys ▸ h.distinct, fun name v hmem hname => ?_⟩
    rcases List.mem_append.mp hmem with hin | hin
    · exact h.unread name v (List.mem_append_left _ hin) hname
    · rcases List.mem_cons.mp hin with heq | hin
      · obtain ⟨rfl, rfl⟩ := Prod.mk.inj heq
        exact hfault name rfl hname (h.unread name value (by simp) hname)
      · exact h.unread name v (List.mem_append_right _ (List.mem_cons_of_mem _ hin)) hname
  -- under a name that is none of a field's, the change is one of something that is passed over
  have hpassed : ∀ name, key = .ok name → name ∉ fields.map Prod.fst →
      (value.fault? = none ↔ other.fault? = none) := by
    rintro name rfl hname
    have hlookup : fields.lookup name = none := by
      rw [List.lookup_eq_none_iff]
      intro field hfield
      rw [bne_iff_ne]
      rintro rfl
      exact hname (List.mem_map.mpr ⟨field, hfield, rfl⟩)
    have hform : Form.passedOver = inner := by simpa [Form.under, hlookup] using hinner
    subst hform
    exact hchange.fault?_iff
  exact ⟨hforward fun name hkey hname => (hpassed name hkey hname).mp,
    hforward fun name hkey hname => (hpassed name hkey hname).mpr⟩

end Changes

/-! ### The law of records -/

section Law

variable {α : Type} {title : String} {fields : List (String × Form × Option Node)} {build : Record → Located α}

/-- Two objects are read alike if their fields are and they are both clean or neither. -/
theorem record_object_congr (hbuild : ∀ r r', FieldsAlike fields r r' → (build r).Alike (build r'))
    {members others : List (Quotation × Node)}
    (hclean : Clean (fields.map Prod.fst) members ↔ Clean (fields.map Prod.fst) others)
    (hfields : Clean (fields.map Prod.fst) members → Clean (fields.map Prod.fst) others →
      FieldsAlike fields (ofMembers title fields members) (ofMembers title fields others)) (a : α) :
    record title (fields.map Prod.fst) build .direct (.object members .closed) = .ok a
      ↔ record title (fields.map Prod.fst) build .direct (.object others .closed) = .ok a := by
  rw [record_object, record_object, ← hclean]
  exact and_congr_left fun h => hbuild _ _ (hfields h (hclean.mp h)) a

/-- Two arrays are read alike if their fields are and there is room for both or neither. -/
theorem record_array_congr (hbuild : ∀ r r', FieldsAlike fields r r' → (build r).Alike (build r'))
    {items others : List Node}
    (hlength : items.length ≤ (fields.map Prod.fst).length ↔ others.length ≤ (fields.map Prod.fst).length)
    (hfields : FieldsAlike fields (ofItems title fields items) (ofItems title fields others)) (a : α) :
    record title (fields.map Prod.fst) build .direct (.array items .closed) = .ok a
      ↔ record title (fields.map Prod.fst) build .direct (.array others .closed) = .ok a := by
  rw [record_array, record_array, ← hlength]
  exact and_congr_left fun _ => hbuild _ _ hfields a

/-- **A record honours its form when its fields honour theirs.** -/
theorem honours_record (hnames : (fields.map Prod.fst).Nodup)
    (hbuild : ∀ r r', FieldsAlike fields r r' → (build r).Alike (build r')) :
    Honours (.record fields) (record title (fields.map Prod.fst) build) := by
  intro node other h
  generalize hform : Form.record fields = form at h
  -- each kind of change leaves the fields alike, and what else there is as clean as it was
  cases h with
  | permute hperm =>
      exact record_object_congr hbuild (clean_iff_of_permute hperm) (fieldsAlike_permute hperm)
  | insert hignored hvalue =>
      subst hform
      refine record_object_congr hbuild ?_ (fieldsAlike_insert hignored)
      rw [clean_cons_unknown hignored]
      exact (and_iff_right hvalue.fault?_eq_none).symm
  | writeOut hfield hfresh =>
      cases hform
      refine record_object_congr hbuild ?_ (fieldsAlike_writeOut hnames hfield hfresh)
      rw [clean_cons_known (List.mem_map.mpr ⟨_, hfield, rfl⟩)]
      exact (and_iff_right hfresh).symm
  | writeOutLast hfield =>
      cases hform
      refine record_array_congr hbuild ?_ (fieldsAlike_writeOutLast hnames hfield)
      have hroom := (List.getElem?_eq_some_iff.mp hfield).1
      rw [List.length_append, List.length_singleton, List.length_map]
      omega
  | member hinner hchange =>
      subst hform
      exact record_object_congr hbuild (clean_iff_of_member hinner hchange)
        (fieldsAlike_member hnames hinner hchange)
  | item hinner hchange =>
      subst hform
      exact record_array_congr hbuild (by simp) (fieldsAlike_item hnames hinner hchange)
  | regroup | respell => cases hform

end Law

end Appraisal.Json
