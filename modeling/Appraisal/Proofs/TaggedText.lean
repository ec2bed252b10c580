/-
Tagged values are read in spite of their tag.

The rest of a tagged value is taken in whole before it is read, which can fail although the reading would not:
a number may have no value, and the nesting may be too deep. So there is a condition of its own for what
stands beside a tag (`Loads`), and the laws for it follow the kinds of value. Under this condition the tag
is found wherever it stands among the members, and what is left is a rearrangement of the other members
(`reads_tagged`).
-/
import Appraisal.Evaluation.Format
import Appraisal.Proofs.ValueText

set_option autoImplicit false

namespace Appraisal

open Json

/-! ## Taking in whole -/

/-- The written form can be taken in whole, in whatever order the members come. -/
def Json.Loads (room : Nat) (written : Json) : Prop :=
  ∀ value, Rearranged written value → (Node.ofJson value).strictFault? room = none

theorem loads_word {α : Type} [Vocabulary α] (a : α) (room : Nat) : Loads room (encode a) := by
  rintro value ⟨⟩
  rfl

theorem loads_string (s : String) (room : Nat) : Loads room (encode s) := by
  rintro value ⟨⟩
  rfl

theorem loads_bool (b : Bool) (room : Nat) : Loads room (encode b) := by
  rintro value ⟨⟩
  rfl

theorem loads_count (n : UInt32) (room : Nat) : Loads room (encode n) := by
  rintro value ⟨⟩
  have hnumeral := Literal.numeral_ofInt (Nat.lt_trans n.toNat_lt (by decide : 2 ^ 32 < UInt64.size))
  rw [Node.ofJson, Node.strictFault?, hnumeral]
  rfl

/-- A double can be taken in, because its text has a value or is `null`. -/
theorem loads_float (x : Float) (room : Nat) : Loads room (encode x) := by
  rintro value ⟨⟩
  rw [Node.ofJson]
  split_ifs with hx
  · obtain ⟨n, hn⟩ := Option.isSome_iff_exists.mp (Literal.isSome_numeral_ofReal hx)
    rw [Node.strictFault?, hn]
    rfl
  · rfl

/-- Items can be taken in if each of them can. -/
theorem itemsStrictFault?_itemsOfJson {room : Nat} {items : List Json} (h : ∀ item ∈ items, Loads room item)
    {others : List Json} (hothers : ItemsRearranged items others) :
    itemsStrictFault? room (itemsOfJson others) = none := by
  induction items generalizing others with
  | nil =>
      cases hothers
      rfl
  | cons item items ih =>
      obtain ⟨hitem, hitems⟩ := List.forall_mem_cons.mp h
      rcases hothers with _ | ⟨hother, hothers⟩
      rw [itemsOfJson, itemsStrictFault?, hitem _ hother, ih hitems hothers]
      rfl

/-- A list of texts is one level deep. -/
theorem loads_texts (texts : List String) (room : Nat) : Loads (room + 1) (encode texts) := by
  intro value hvalue
  rcases hvalue with _ | _ | _ | _ | _ | hitems
  have hloads : ∀ item ∈ texts.map encode, Loads room item := by
    intro item hitem
    obtain ⟨text, -, rfl⟩ := List.mem_map.mp hitem
    exact loads_string text room
  rw [Node.ofJson, Node.strictFault?]
  simp only [itemsStrictFault?_itemsOfJson hloads hitems]
  rfl

theorem membersStrictFault?_membersOfJson {room : Nat} {members : List (String × Json)}
    (h : ∀ member ∈ members, (Node.ofJson member.2).strictFault? room = none) :
    membersStrictFault? room (membersOfJson members) = none := by
  induction members with
  | nil => rfl
  | cons member members ih =>
      obtain ⟨hmember, hmembers⟩ := List.forall_mem_cons.mp h
      rw [membersOfJson, membersStrictFault?, hmember, ih hmembers]
      rfl

/-- Each member of a rearrangement can be taken in if each member of the original can. -/
theorem Json.MembersRearranged.strictFault? {room : Nat} {members others : List (String × Json)}
    (hothers : MembersRearranged members others) (h : ∀ member ∈ members, Loads room member.2) :
    ∀ other ∈ others, (Node.ofJson other.2).strictFault? room = none := by
  induction members generalizing others with
  | nil =>
      cases hothers
      simp
  | cons member members ih =>
      obtain ⟨hmember, hmembers⟩ := List.forall_mem_cons.mp h
      rcases hothers with _ | ⟨_, hother, hrest⟩
      exact List.forall_mem_cons.mpr ⟨hmember _ hother, ih hrest hmembers⟩

/-- An object is one level deeper than its members. -/
theorem loads_object {room : Nat} {members : List (String × Json)}
    (h : ∀ member ∈ members, Loads room member.2) : Loads (room + 1) (.object members) := by
  intro value hvalue
  cases hvalue with
  | @object _ others shuffled hothers hperm =>
      have hloaded := hothers.strictFault? h
      have hshuffled : membersStrictFault? room (membersOfJson shuffled) = none :=
        membersStrictFault?_membersOfJson fun member hmember => hloaded member (hperm.mem_iff.mpr hmember)
      rw [Node.ofJson, Node.strictFault?]
      simp only [hshuffled]
      rfl

/-! ## Finding the tag -/

section Tagging

variable {τ : Type} [Vocabulary τ] (tagging : Tagging)

/-- Behind the tag the other members are taken in and kept. -/
theorem splitMembers_some (tag : τ) {members : List (String × Json)}
    (hnames : ∀ member ∈ members, member.1 ≠ tagging.key)
    (hloads : ∀ member ∈ members, (Node.ofJson member.2).strictFault? tagging.room = none) :
    tagging.splitMembers .closed (some tag) (membersOfJson members) = .ok (tag, membersOfJson members) := by
  induction members with
  | nil => rfl
  | cons member members ih =>
      obtain ⟨hname, hnames⟩ := List.forall_mem_cons.mp hnames
      obtain ⟨hload, hloads⟩ := List.forall_mem_cons.mp hloads
      rw [membersOfJson, Tagging.splitMembers, if_neg hname, Tagging.takeIn, hload, ih hnames hloads]
      rfl

/-- The tag is found between the other members. -/
theorem splitMembers_none (tag : τ) {before behind : List (String × Json)}
    (hnames : ∀ member ∈ before ++ behind, member.1 ≠ tagging.key)
    (hloads : ∀ member ∈ before ++ behind, (Node.ofJson member.2).strictFault? tagging.room = none) :
    tagging.splitMembers .closed none (membersOfJson (before ++ (tagging.key, encode tag) :: behind))
      = .ok (tag, membersOfJson (before ++ behind)) := by
  induction before with
  | nil =>
      have htag : Decoder.tag .direct (Node.ofJson (encode tag)) = .ok tag := by
        show Decoder.member (Vocabulary.word tag) = .ok tag
        rw [Decoder.member, Vocabulary.ofWord?_word]
      rw [List.nil_append, membersOfJson, Tagging.splitMembers, if_pos rfl]
      show (Decoder.tag .direct (Node.ofJson (encode tag))).bind _ = _
      rw [htag]
      exact splitMembers_some tagging tag hnames hloads
  | cons member before ih =>
      rw [List.cons_append] at hnames hloads ⊢
      obtain ⟨hname, hnames⟩ := List.forall_mem_cons.mp hnames
      obtain ⟨hload, hloads⟩ := List.forall_mem_cons.mp hloads
      rw [membersOfJson, Tagging.splitMembers, if_neg hname, Tagging.takeIn, hload, ih hnames hloads]
      rfl

/-- **A tagged value is read**, in whatever order its members come, when the rest of it is. -/
theorem reads_tagged {α : Type} {rest : τ → Decoder α} {tag : τ} {members : List (String × Json)} {a : α}
    (hname : tagging.key ∉ members.map Prod.fst) (hloads : ∀ member ∈ members, Loads tagging.room member.2)
    (hrest : Reads (rest tag) (.object members) a) :
    Reads (tagged tagging rest) (.object ((tagging.key, encode tag) :: members)) a := by
  intro value hvalue pass
  cases hvalue with
  | @object _ others shuffled hothers hperm =>
      rcases hothers with _ | ⟨_, ⟨⟩, hothers⟩
      -- the tag stands somewhere among the shuffled members
      obtain ⟨before, behind, rfl⟩ := List.append_of_mem (hperm.mem_iff.mp List.mem_cons_self)
      have hperm := List.perm_cons _ |>.mp (hperm.trans List.perm_middle)
      have hothersNames := hothers.names_eq
      have hnames : ∀ member ∈ before ++ behind, member.1 ≠ tagging.key := by
        intro member hmember hkey
        refine hname (hothersNames ▸ List.mem_map.mpr ⟨member, hperm.mem_iff.mpr hmember, hkey⟩)
      have hloaded : ∀ member ∈ before ++ behind,
          (Node.ofJson member.2).strictFault? tagging.room = none := fun member hmember =>
        hothers.strictFault? hloads member (hperm.mem_iff.mpr hmember)
      have hsplit := splitMembers_none tagging tag hnames hloaded
      have hread := hrest _ (.object hothers hperm) .copy
      rw [Node.ofJson] at hread
      show (tagging.split (.object (membersOfJson (before ++ (tagging.key, encode tag) :: behind)) .closed)).bind
        _ = .ok a
      rw [Tagging.split, hsplit]
      exact hread

end Tagging

/-! ## Slots -/

namespace Slot

/-- A slot with another result or placeholder. -/
def map {α β : Type} (f : α → β) : Slot α → Slot β
  | evaluated value => evaluated (f value)
  | skipped placeholder haltedAt => skipped (f placeholder) haltedAt

/-- **A slot is read when its result or its placeholder is**, as long as that is an object without a member
for the tag, and at most one level deeper. -/
theorem reads {α : Type} [Codec α] {slot : Slot α} (f : α → α) {members : List (String × Json)}
    (hwritten : encode slot.value = .object members) (hname : "status" ∉ members.map Prod.fst)
    (hloads : ∀ member ∈ members, ∀ room, Loads (room + 1) member.2)
    (hread : Reads decode (encode slot.value) (f slot.value)) : Reads decode (encode slot) (slot.map f) := by
  rw [hwritten] at hread
  cases slot with
  | evaluated value =>
      -- the tag is put in front of the members of the result itself
      have hform : encode (evaluated value) = .object (("status", encode Status.evaluated) :: members) := by
        show withMember "status" (encode Status.evaluated) (encode value) = _
        rw [show encode value = .object members from hwritten]
        rfl
      rw [hform]
      refine reads_tagged tagging hname (fun member hmember => hloads member hmember 124) ?_
      intro node hnode pass
      show (decode pass (Node.ofJson node)).map evaluated = .ok (evaluated (f value))
      rw [hread node hnode pass]
      rfl
  | skipped placeholder haltedAt =>
      have hobject : encode placeholder = .object members := hwritten
      -- the placeholder is a member of its own behind the tag, one level deeper
      have hplaceholder : Loads (123 + 2) (encode placeholder) := by
        rw [hobject]
        exact loads_object fun member hmember => hloads member hmember 123
      have hrest : Reads (restDecoder Status.notEvaluated)
          (.object [("placeholder", encode placeholder), ("haltedAt", encode haltedAt)])
          (skipped (f placeholder) haltedAt) := by
        rw [← hobject] at hread
        rw [restDecoder]
        refine reads_record (List.Sublist.refl _) (by decide) fun r hr => ?_
        rw [hr.get hread (by simp), hr.get (readsBack_word haltedAt) (by simp)]
        rfl
      refine reads_tagged tagging ?_ ?_ hrest
      · show "status" ∉ ["placeholder", "haltedAt"]
        decide
      · simp only [List.forall_mem_cons, List.not_mem_nil, false_implies, implies_true, and_true]
        exact ⟨hplaceholder, loads_word haltedAt _⟩

@[simp] theorem map_id {α : Type} (slot : Slot α) : slot.map id = slot := by
  cases slot <;> rfl

/-- A slot is read back when its result or its placeholder is. -/
theorem readsBack {α : Type} [Codec α] {slot : Slot α} {members : List (String × Json)}
    (hwritten : encode slot.value = .object members) (hname : "status" ∉ members.map Prod.fst)
    (hloads : ∀ member ∈ members, ∀ room, Loads (room + 1) member.2) (hread : ReadsBack slot.value) :
    ReadsBack slot := by
  have hreads := slot.reads id hwritten hname hloads hread
  rwa [map_id] at hreads

end Slot

end Appraisal
