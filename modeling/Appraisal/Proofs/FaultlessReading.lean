/-
What a decoder takes has nothing wrong in it.

A decoder and one who passes over a value do not look for the same faults: the decoder may stop early at a value
of the wrong type, and one who passes over does not mind half of a surrogate pair. Still, whatever a decoder takes,
one who passes over takes too. Single values and lists are read to their end. A record is read to its end because
every name that it knows is the name of a field that somebody asks for, and everything else is passed over.

So the texts that a decoder takes are JSON texts (`Faultless.exists_spellsText`). A decoder that honours its form
and is faultless is `Lawful`, and a record is lawful when its fields are.
-/
import Appraisal.Proofs.Recognition
import Appraisal.Proofs.RecordPresentation

set_option autoImplicit false

namespace Appraisal.Json

/-- The decoder takes no node with a fault. -/
def Faultless {α : Type} (decode : Decoder α) : Prop :=
  ∀ node a, decode .direct node = .ok a → node.fault? = none

/-! ## Single values and lists -/

section Values

variable {α : Type}

theorem faultless_string : Faultless (decode : Decoder String) := by
  intro node a h
  cases node with
  | string text => rfl
  | _ => cases h

theorem faultless_bool : Faultless (decode : Decoder Bool) := by
  intro node a h
  cases node with
  | bool b => rfl
  | _ => cases h

theorem faultless_float : Faultless (decode : Decoder Float) := by
  intro node a h
  cases node with
  | number l => rfl
  | _ => cases h

theorem faultless_count : Faultless (decode : Decoder UInt32) := by
  intro node a h
  cases node with
  | number l => rfl
  | _ => cases h

theorem faultless_coverage : Faultless (decode : Decoder Coverage) := by
  intro node a h
  cases node with
  | bool b => rfl
  | string text => rfl
  | _ => cases h

/-- Of an object, the word is the only key. -/
theorem faultless_word [Vocabulary α] : Faultless (decode : Decoder α) := by
  intro node a h
  cases node with
  | string text => rfl
  | object members ending =>
      obtain ⟨key, rfl, rfl, -⟩ := word_object_eq_ok.mp h
      rfl
  | broken wreck => cases wreck <;> cases h
  | _ => cases h

theorem Faultless.nullable {decode : Decoder α} (h : Faultless decode) : Faultless (Decoder.nullable decode) := by
  intro node a ha
  rw [Decoder.nullable.eq_def] at ha
  split at ha
  · rfl
  · cases ha
  · obtain ⟨b, hb, -⟩ := map_eq_ok.mp ha
    exact h _ b hb

/-- A list is closed behind its last item. -/
theorem Faultless.list {decode : Decoder α} (h : Faultless decode) : Faultless (Decoder.list decode) := by
  intro node as has
  cases node with
  | array items ending =>
      obtain ⟨hitems, rfl⟩ := list_eq_ok.mp has
      rw [fault?_array]
      intro item hitem
      obtain ⟨i, hi, rfl⟩ := List.mem_iff_getElem.mp hitem
      exact h _ _ ((List.forall₂_iff_get.mp hitems).2 i hi (hitems.length_eq ▸ hi))
  | _ => cases has

theorem faultless_selection [Vocabulary α] [BEq α] : Faultless (decode : Decoder (Selection α)) := by
  intro node s hs
  obtain ⟨as, has, -⟩ := map_eq_ok.mp hs
  exact faultless_word.list node as has

end Values

/-! ## Records -/

/-- There is nothing wrong at the place of a field. -/
def Record.Settled (r : Record) (name : String) : Prop :=
  match r.parts with
  | .named members _ => ∀ place value, Record.find? name 0 members = some (place, value) → value.fault? = none
  | .listed items ending =>
    match items[r.names.idxOf name]? with
    | some value => value.fault? = none
    | none => ending = .closed

/-- When this part of a record is read where it stands, there is nothing wrong at the places of these fields. -/
def Settles {α : Type} (r : Record) (names : List String) (x : Located α) : Prop :=
  r.pass = .direct → ∀ a, x = .of a → ∀ name ∈ names, r.Settled name

section Settles

variable {α β : Type} {r : Record} {names names' : List String}

theorem settles_field {name : String} {absent : Absent α} {decode : Decoder α} (h : Faultless decode)
    (r : Record) : Settles r [name] (r.field name absent decode) := by
  intro hpass a ha
  rw [List.forall_mem_singleton, Record.Settled]
  rw [Record.field, hpass] at ha
  cases hparts : r.parts with
  | named members ending =>
      rw [hparts] at ha
      intro place value hfound
      simp only [hfound] at ha
      exact h value a (placed_eq_of.mp ha)
  | listed items ending =>
      rw [hparts] at ha
      dsimp only at ha ⊢
      -- an item that is not there is no fault of its own; the array has to have ended in front of it
      cases hitem : items[r.names.idxOf name]? with
      | some value =>
          rw [hitem] at ha
          exact h value a (placed_eq_of.mp ha)
      | none =>
          rw [hitem] at ha
          cases ending with
          | closed => rfl
          | _ => cases ha

theorem Settles.map {x : Located α} (h : Settles r names x) (f : α → β) : Settles r names (f <$> x) := by
  intro hpass b hb
  obtain ⟨_, a, ⟨⟩, ha, -⟩ := Located.both_eq_of.mp hb
  exact h hpass a ha

theorem Settles.seq {f : Located (α → β)} {x : Located α} (hf : Settles r names f) (hx : Settles r names' x) :
    Settles r (names ++ names') (f <*> x) := by
  intro hpass b hb
  obtain ⟨g, a, hg, ha, -⟩ := Located.both_eq_of.mp hb
  rw [List.forall_mem_append]
  exact ⟨hf hpass g hg, hx hpass a ha⟩

end Settles

theorem strayMember?_ending {names seen : List String} {ending : ObjectEnd} {members : List (Quotation × Node)}
    (place : Nat) (h : Record.strayMember? names ending place seen members = none) : ending = .closed := by
  fun_induction Record.strayMember? names ending place seen members with
  | case1 => cases ending <;> first | rfl | cases h
  | case2 => cases h
  | case3 => cases h
  | case4 _ _ _ _ _ _ _ ih => exact ih h
  | case5 => cases h
  | case6 _ _ _ _ _ _ _ ih => exact ih h

/-- Among clean members with settled fields there is no fault. -/
theorem fault?_of_clean {title : String} {names : List String} {members : List (Quotation × Node)}
    (hclean : Clean names members)
    (hsettled : ∀ name ∈ names, Record.Settled ⟨.direct, title, names, .named members .closed⟩ name) :
    (Node.object members .closed).fault? = none := by
  rw [fault?_object]
  rintro ⟨key, value⟩ hmem
  obtain ⟨name, rfl⟩ := hclean.texts key (List.mem_map_of_mem hmem)
  by_cases hname : name ∈ names
  · obtain ⟨place, hfound⟩ := (find?_eq_some_iff hclean hname 0).mpr hmem
    exact hsettled name hname place value hfound
  · exact hclean.unread name value hmem hname

/-- Among items that are not too many, with settled fields, there is no fault, and the array is closed. -/
theorem fault?_of_settled {title : String} {names : List String} (hnames : names.Nodup) {items : List Node}
    {ending : ArrayEnd}
    (hremainder : Record.remainder ⟨.direct, title, names, .listed items ending⟩ = .of ())
    (hsettled : ∀ name ∈ names, Record.Settled ⟨.direct, title, names, .listed items ending⟩ name) :
    (Node.array items ending).fault? = none := by
  -- names are distinct, so the field at a place is the one that is looked for there
  have hplace : ∀ i (hi : i < names.length), match items[i]? with
      | some value => value.fault? = none
      | none => ending = .closed := by
    intro i hi
    have hfield := hsettled names[i] (List.getElem_mem hi)
    simpa only [Record.Settled, hnames.idxOf_getElem i hi] using hfield
  rw [Record.remainder] at hremainder
  dsimp only at hremainder
  -- the field behind the last item is settled only if the array is closed; without such a field, the remainder
  -- has looked at the end
  have hend : items.length ≤ names.length ∧ ending = .closed := by
    split_ifs at hremainder with hshort
    · refine ⟨hshort.le, ?_⟩
      have hfirst := hplace items.length hshort
      rwa [List.getElem?_eq_none le_rfl] at hfirst
    · cases hrest : items.drop names.length with
      | cons item rest =>
          rw [hrest] at hremainder
          cases ending <;> cases hremainder
      | nil =>
          rw [hrest] at hremainder
          refine ⟨List.drop_eq_nil_iff.mp hrest, ?_⟩
          cases ending <;> first | rfl | cases hremainder
  obtain ⟨hlength, rfl⟩ := hend
  rw [fault?_array]
  intro item hitem
  obtain ⟨i, hi, rfl⟩ := List.mem_iff_getElem.mp hitem
  have hvalue := hplace i (by omega)
  rwa [List.getElem?_eq_getElem hi] at hvalue

/-- **A record is faultless when it asks for all its fields by decoders that are.** -/
theorem faultless_record {α : Type} {title : String} {names : List String} {build : Record → Located α}
    (hnames : names.Nodup) (hbuild : ∀ r, Settles r names (build r)) : Faultless (record title names build) := by
  intro node a h
  cases node with
  | object members ending =>
      obtain ⟨hfields, hremainder⟩ := record_named.mp h
      obtain rfl : ending = .closed := by
        rw [Record.remainder] at hremainder
        dsimp only at hremainder
        cases hstray : Record.strayMember? names ending 0 [] members with
        | none => exact strayMember?_ending 0 hstray
        | some error =>
            rw [hstray] at hremainder
            cases hremainder
      exact fault?_of_clean (record_object.mp h).2 (hbuild _ rfl a hfields)
  | array items ending =>
      obtain ⟨hfields, hremainder⟩ := record_listed.mp h
      exact fault?_of_settled hnames hremainder (hbuild _ rfl a hfields)
  | _ => cases h

/-! ## Whole texts -/

/-- **A text that a faultless decoder takes is JSON text.** -/
theorem Faultless.exists_spellsText {α : Type} {decode : Decoder α} (h : Faultless decode) {text : String} {a : α}
    (ha : decodeText decode text = .ok a) : ∃ node, SpellsText node text := by
  obtain ⟨hroot, hmore⟩ := decodeText_eq_ok.mp ha
  refine ⟨(Document.read text).root, Document.read_eq_iff.mpr ⟨?_, h _ a hroot⟩⟩
  rw [← hmore]

/-! ## Both laws at once -/

/-- A decoder that takes no notice of how a value is presented, and takes no node with a fault. -/
structure Lawful {α : Type} (form : Form) (decode : Decoder α) : Prop where
  honours : Honours form decode
  faultless : Faultless decode

theorem Lawful.nullable {α : Type} {form : Form} {decode : Decoder α} (h : Lawful form decode) :
    Lawful form (Decoder.nullable decode) :=
  ⟨h.honours.nullable, h.faultless.nullable⟩

/-- What puts a record together, as far as it asks for the fields with these names: it depends on nothing but the
fields, and it settles these. -/
structure Builds {α : Type} (fields : List (String × Form × Option Node)) (names : List String)
    (build : Record → Located α) : Prop where
  alike : ∀ r r', FieldsAlike fields r r' → (build r).Alike (build r')
  settles : ∀ r, Settles r names (build r)

section Builds

variable {α β : Type} {fields : List (String × Form × Option Node)} {names names' : List String}

/-- A field that has to be there. -/
theorem builds_get [Codec α] {name : String} {form : Form} (h : Lawful form (decode : Decoder α))
    (hmem : (name, form, none) ∈ fields) : Builds fields [name] fun r => (r.get name : Located α) :=
  ⟨fun _ _ halike => halike.get h.honours hmem, settles_field h.faultless⟩

/-- A field that may be left out. -/
theorem builds_getD [Codec α] {name : String} {form : Form} {node : Node} {a : α}
    (h : Lawful form (decode : Decoder α)) (hnode : decode .direct node = .ok a)
    (hmem : (name, form, some node) ∈ fields) : Builds fields [name] fun r => r.getD name a :=
  ⟨fun _ _ halike => halike.getD node h.honours hnode hmem, settles_field h.faultless⟩

theorem Builds.map {build : Record → Located α} (h : Builds fields names build) (f : α → β) :
    Builds fields names fun r => f <$> build r :=
  ⟨fun r r' halike => (h.alike r r' halike).map f, fun r => (h.settles r).map f⟩

theorem Builds.seq {build : Record → Located (α → β)} {build' : Record → Located α}
    (h : Builds fields names build) (h' : Builds fields names' build') :
    Builds fields (names ++ names') fun r => build r <*> build' r :=
  ⟨fun r r' halike => (h.alike r r' halike).seq (h'.alike r r' halike),
    fun r => (h.settles r).seq (h'.settles r)⟩

/-- **A record is lawful when it asks for all its fields by decoders that are.** -/
theorem lawful_record {title : String} {build : Record → Located α} (hnames : (fields.map Prod.fst).Nodup)
    (hbuild : Builds fields (fields.map Prod.fst) build) :
    Lawful (.record fields) (record title (fields.map Prod.fst) build) :=
  ⟨honours_record hnames hbuild.alike, faultless_record hnames hbuild.settles⟩

end Builds

end Appraisal.Json
