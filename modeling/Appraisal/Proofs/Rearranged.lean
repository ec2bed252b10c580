/-
The order of members means nothing.

Two JSON values are the same up to order (`Rearranged`) when one becomes the other by putting the members of
its objects, at any depth, in another order. This is an equivalence, and the canonical form of a value is one of
its rearrangements.

A decoder reads a value from a written form (`Reads`) when it finds the value in every rearrangement of the
form. For a record this follows from the fields: its members have distinct names, so each field is found
wherever it stands, and there is nothing else to complain about (`reads_record`). A type reads its values
back (`ReadsBack`) when its decoder reads each of them from the form that it is written in.
-/
import Mathlib.Data.List.Nodup
import Mathlib.Data.List.Perm.Basic
import Appraisal.Json.Canonical
import Appraisal.Json.Codec
import Appraisal.Proofs.Reading

set_option autoImplicit false

namespace Appraisal

open Json

namespace Json

/-! ## Rearrangements -/

mutual

/-- The second value is the first one with its members, at any depth, in any order. -/
inductive Rearranged : Json → Json → Prop
  | null : Rearranged .null .null
  | bool (b : Bool) : Rearranged (.bool b) (.bool b)
  | integer (n : Int) : Rearranged (.integer n) (.integer n)
  | real (x : Float) : Rearranged (.real x) (.real x)
  | string (s : String) : Rearranged (.string s) (.string s)
  | array {items others : List Json} : ItemsRearranged items others →
      Rearranged (.array items) (.array others)
  | object {members others shuffled : List (String × Json)} : MembersRearranged members others →
      others.Perm shuffled → Rearranged (.object members) (.object shuffled)

/-- Item by item, in the same order. -/
inductive ItemsRearranged : List Json → List Json → Prop
  | nil : ItemsRearranged [] []
  | cons {item other : Json} {items others : List Json} : Rearranged item other →
      ItemsRearranged items others → ItemsRearranged (item :: items) (other :: others)

/-- Member by member, in the same order and under the same names. -/
inductive MembersRearranged : List (String × Json) → List (String × Json) → Prop
  | nil : MembersRearranged [] []
  | cons (name : String) {value other : Json} {members others : List (String × Json)} :
      Rearranged value other → MembersRearranged members others →
      MembersRearranged ((name, value) :: members) ((name, other) :: others)

end

mutual

theorem Rearranged.refl : ∀ value : Json, Rearranged value value
  | .null => .null
  | .bool b => .bool b
  | .integer n => .integer n
  | .real x => .real x
  | .string s => .string s
  | .array items => .array (ItemsRearranged.refl items)
  | .object members => .object (MembersRearranged.refl members) (List.Perm.refl members)

theorem ItemsRearranged.refl : ∀ items : List Json, ItemsRearranged items items
  | [] => .nil
  | item :: items => .cons (Rearranged.refl item) (ItemsRearranged.refl items)

theorem MembersRearranged.refl : ∀ members : List (String × Json), MembersRearranged members members
  | [] => .nil
  | (name, value) :: members => .cons name (Rearranged.refl value) (MembersRearranged.refl members)

end

/-- Members that are rearranged one by one can be put in any order first. -/
theorem MembersRearranged.exists_of_perm {members others shuffled : List (String × Json)}
    (h : MembersRearranged members others) (hperm : shuffled.Perm members) :
    ∃ reshuffled, MembersRearranged shuffled reshuffled ∧ reshuffled.Perm others := by
  induction hperm generalizing others with
  | nil => exact ⟨others, h, List.Perm.refl _⟩
  | cons member _ ih =>
      cases h with
      | cons name hvalue hrest =>
          obtain ⟨reshuffled, hre, hback⟩ := ih hrest
          exact ⟨_, .cons name hvalue hre, hback.cons _⟩
  | swap first second rest =>
      cases h with
      | cons name hsecond hrest =>
          cases hrest with
          | cons name' hfirst hrest =>
              exact ⟨_, .cons name' hfirst (.cons name hsecond hrest), List.Perm.swap _ _ _⟩
  | trans _ _ ih ih' =>
      obtain ⟨between, hbetween, hback⟩ := ih' h
      obtain ⟨reshuffled, hre, hback'⟩ := ih hbetween
      exact ⟨reshuffled, hre, hback'.trans hback⟩

mutual

theorem Rearranged.symm : ∀ {value other : Json}, Rearranged value other → Rearranged other value
  | _, _, .null => .null
  | _, _, .bool b => .bool b
  | _, _, .integer n => .integer n
  | _, _, .real x => .real x
  | _, _, .string s => .string s
  | _, _, .array hitems => .array hitems.symm
  | _, _, .object hmembers hperm => by
      obtain ⟨reshuffled, hre, hback⟩ := hmembers.symm.exists_of_perm hperm.symm
      exact .object hre hback

theorem ItemsRearranged.symm : ∀ {items others : List Json},
    ItemsRearranged items others → ItemsRearranged others items
  | _, _, .nil => .nil
  | _, _, .cons hitem hrest => .cons hitem.symm hrest.symm

theorem MembersRearranged.symm : ∀ {members others : List (String × Json)},
    MembersRearranged members others → MembersRearranged others members
  | _, _, .nil => .nil
  | _, _, .cons name hvalue hrest => .cons name hvalue.symm hrest.symm

end

mutual

theorem Rearranged.trans : ∀ {value between other : Json},
    Rearranged value between → Rearranged between other → Rearranged value other
  | _, _, _, .null, h => h
  | _, _, _, .bool _, h => h
  | _, _, _, .integer _, h => h
  | _, _, _, .real _, h => h
  | _, _, _, .string _, h => h
  | _, _, _, .array hitems, .array hitems' => .array (hitems.trans hitems')
  | _, _, _, .object hmembers hperm, .object hmembers' hperm' => by
      -- the second rearrangement is made before the first permutation
      obtain ⟨reshuffled, hre, hback⟩ := hmembers'.exists_of_perm hperm
      exact .object (hmembers.trans hre) (hback.trans hperm')

theorem ItemsRearranged.trans : ∀ {items between others : List Json},
    ItemsRearranged items between → ItemsRearranged between others → ItemsRearranged items others
  | _, _, _, .nil, h => h
  | _, _, _, .cons hitem hrest, .cons hitem' hrest' => .cons (hitem.trans hitem') (hrest.trans hrest')

theorem MembersRearranged.trans : ∀ {members between others : List (String × Json)},
    MembersRearranged members between → MembersRearranged between others → MembersRearranged members others
  | _, _, _, .nil, h => h
  | _, _, _, .cons name hvalue hrest, .cons _ hvalue' hrest' =>
      .cons name (hvalue.trans hvalue') (hrest.trans hrest')

end

theorem insertMember_perm (member : String × Json) (members : List (String × Json)) :
    (member :: members).Perm (insertMember member members) := by
  induction members with
  | nil => exact List.Perm.refl _
  | cons other rest ih =>
      rw [insertMember]
      split
      · exact (List.Perm.swap other member rest).trans (ih.cons other)
      · exact List.Perm.refl _

mutual

/-- **The canonical form is a rearrangement.** -/
theorem rearranged_sortKeys : ∀ value : Json, Rearranged value (sortKeys value)
  | .null => by rw [sortKeys]; exact .null
  | .bool b => by rw [sortKeys]; exact .bool b
  | .integer n => by rw [sortKeys]; exact .integer n
  | .real x => by rw [sortKeys]; exact .real x
  | .string s => by rw [sortKeys]; exact .string s
  | .array items => by
      rw [sortKeys]
      exact .array (itemsRearranged_sortItems items)
  | .object members => by
      obtain ⟨others, hothers, hperm⟩ := membersRearranged_sortMembers members
      rw [sortKeys]
      exact .object hothers hperm

theorem itemsRearranged_sortItems : ∀ items : List Json, ItemsRearranged items (sortItems items)
  | [] => .nil
  | item :: items => .cons (rearranged_sortKeys item) (itemsRearranged_sortItems items)

theorem membersRearranged_sortMembers : ∀ members : List (String × Json),
    ∃ others, MembersRearranged members others ∧ others.Perm (sortMembers members)
  | [] => ⟨[], .nil, List.Perm.refl _⟩
  | (name, value) :: members => by
      obtain ⟨others, hothers, hperm⟩ := membersRearranged_sortMembers members
      refine ⟨(name, sortKeys value) :: others, .cons name (rearranged_sortKeys value) hothers, ?_⟩
      rw [sortMembers]
      exact (hperm.cons _).trans (insertMember_perm _ _)

end

theorem MembersRearranged.names_eq {members others : List (String × Json)}
    (h : MembersRearranged members others) : others.map Prod.fst = members.map Prod.fst := by
  induction members generalizing others with
  | nil => cases h; rfl
  | cons member members ih =>
      cases h with
      | cons name hvalue hrest => rw [List.map_cons, List.map_cons, ih hrest]

theorem MembersRearranged.exists_mem {members others : List (String × Json)}
    (h : MembersRearranged members others) {name : String} {value : Json}
    (hmem : (name, value) ∈ members) : ∃ other, (name, other) ∈ others ∧ Rearranged value other := by
  induction members generalizing others with
  | nil => exact absurd hmem List.not_mem_nil
  | cons member members ih =>
      cases h with
      | @cons first _ other _ _ hfirst hrest =>
          rcases List.mem_cons.mp hmem with heq | hin
          · obtain ⟨rfl, rfl⟩ := Prod.mk.inj heq
            exact ⟨other, List.mem_cons_self, hfirst⟩
          · obtain ⟨other, hother, hre⟩ := ih hrest hin
            exact ⟨other, List.mem_cons_of_mem _ hother, hre⟩

/-! ## Finding members -/

theorem find?_membersOfJson {members : List (String × Json)} (hnodup : (members.map Prod.fst).Nodup)
    {name : String} {value : Json} (hmem : (name, value) ∈ members) (start : Nat) :
    ∃ place, Record.find? name start (membersOfJson members) = some (place, Node.ofJson value) := by
  induction members generalizing start with
  | nil => exact absurd hmem List.not_mem_nil
  | cons member members ih =>
      obtain ⟨key, first⟩ := member
      obtain ⟨hkey, hrest⟩ := List.nodup_cons.mp hnodup
      rw [membersOfJson, Record.find?]
      rcases List.mem_cons.mp hmem with heq | hin
      · obtain ⟨rfl, rfl⟩ := Prod.mk.inj heq
        exact ⟨start, if_pos rfl⟩
      · have hne : key ≠ name := by
          rintro rfl
          exact hkey (List.mem_map.mpr ⟨_, hin, rfl⟩)
        rw [if_neg hne]
        exact ih hrest hin (start + 1)

theorem find?_membersOfJson_eq_none {members : List (String × Json)} {name : String}
    (hname : name ∉ members.map Prod.fst) (start : Nat) :
    Record.find? name start (membersOfJson members) = none := by
  induction members generalizing start with
  | nil => rfl
  | cons member members ih =>
      obtain ⟨key, value⟩ := member
      rw [List.map_cons, List.mem_cons, not_or] at hname
      rw [membersOfJson, Record.find?, if_neg (Ne.symm hname.1)]
      exact ih hname.2 (start + 1)

/-- There is nothing stray among members with distinct known names. -/
theorem strayMember?_membersOfJson {names seen : List String} {members : List (String × Json)}
    (hnodup : (members.map Prod.fst).Nodup) (hknown : ∀ name ∈ members.map Prod.fst, name ∈ names)
    (hunseen : ∀ name ∈ members.map Prod.fst, name ∉ seen) (start : Nat) :
    Record.strayMember? names .closed start seen (membersOfJson members) = none := by
  induction members generalizing seen start with
  | nil => rfl
  | cons member members ih =>
      obtain ⟨key, value⟩ := member
      obtain ⟨hkey, hrest⟩ := List.nodup_cons.mp hnodup
      rw [List.map_cons] at hknown hunseen
      rw [membersOfJson, Record.strayMember?, if_pos (hknown key List.mem_cons_self),
        if_neg (hunseen key List.mem_cons_self)]
      refine ih hrest (fun name hname => hknown name (List.mem_cons_of_mem _ hname)) ?_ (start + 1)
      intro name hname hseen
      rcases List.mem_cons.mp hseen with rfl | hin
      · exact hkey hname
      · exact hunseen name (List.mem_cons_of_mem _ hname) hin

end Json

/-! ## Reading -/

/-- The decoder finds the value in the written form, in whatever order the members come. -/
def Json.Reads {α : Type} (decode : Decoder α) (written : Json) (a : α) : Prop :=
  ∀ value, Rearranged written value → ∀ pass, decode pass (Node.ofJson value) = .ok a

/-- The value is decoded from what it is written as, in whatever order the members come. -/
abbrev ReadsBack {α : Type} [Codec α] (a : α) : Prop :=
  Json.Reads decode (encode a) a

/-- Among the parts of the record each of the members is found, and no other one is. -/
def Json.Record.Holds (r : Record) (members : List (String × Json)) : Prop :=
  ∃ nodes ending, r.parts = .named nodes ending
    ∧ (∀ name value, (name, value) ∈ members → ∃ place other,
        Record.find? name 0 nodes = some (place, Node.ofJson other) ∧ Rearranged value other)
    ∧ ∀ name, name ∉ members.map Prod.fst → Record.find? name 0 nodes = none

namespace Json.Record.Holds

variable {α : Type} {r : Record} {members : List (String × Json)} {name : String} {written : Json} {a : α}

theorem field_of_mem (h : r.Holds members) {decode : Decoder α} (ha : Reads decode written a)
    (absent : Absent α) (hmem : (name, written) ∈ members) : r.field name absent decode = .of a := by
  obtain ⟨nodes, ending, hparts, hfound, _⟩ := h
  obtain ⟨place, other, hfind, hre⟩ := hfound name written hmem
  rw [Record.field, hparts]
  simp only [hfind, ha other hre r.pass]

variable [Codec α]

/-- A field that has to be there is read. -/
theorem get (h : r.Holds members) (ha : Reads decode written a) (hmem : (name, written) ∈ members) :
    r.get name = .of a :=
  h.field_of_mem ha .refused hmem

/-- A field that may be `null` is read. -/
theorem get? (h : r.Holds members) {a : Option α} (ha : Reads decode written a)
    (hmem : (name, written) ∈ members) : r.get? name = .of a :=
  h.field_of_mem ha (.unnamed none) hmem

/-- A field that may be left out is read if it is there. -/
theorem getD (h : r.Holds members) (ha : Reads decode written a) (value : α)
    (hmem : (name, written) ∈ members) : r.getD name value = .of a :=
  h.field_of_mem ha (.replaced value) hmem

/-- A field that is left out is replaced. -/
theorem getD_absent (h : r.Holds members) (value : α) (hname : name ∉ members.map Prod.fst) :
    r.getD name value = .of value := by
  obtain ⟨nodes, ending, hparts, _, habsent⟩ := h
  rw [Record.getD, Record.field, hparts]
  simp only [habsent name hname]

end Json.Record.Holds

/-- **A record is read**, in whatever order its members come, when its fields are. -/
theorem Json.reads_record {α : Type} {title : String} {names : List String} {build : Record → Located α}
    {members : List (String × Json)} {a : α} (hnames : (members.map Prod.fst).Sublist names)
    (hnodup : names.Nodup) (hbuild : ∀ r : Record, r.Holds members → build r = .of a) :
    Reads (record title names build) (.object members) a := by
  intro value hvalue pass
  cases hvalue with
  | @object _ others shuffled hothers hperm =>
      -- the values may be rearranged and the members shuffled, but their names are the same
      have hsame : (shuffled.map Prod.fst).Perm (members.map Prod.fst) := by
        rw [← hothers.names_eq]
        exact (hperm.map Prod.fst).symm
      have hdistinct : (shuffled.map Prod.fst).Nodup := hsame.nodup_iff.mpr (hnames.nodup hnodup)
      have hholds : Record.Holds ⟨pass, title, names, .named (membersOfJson shuffled) .closed⟩ members := by
        refine ⟨_, _, rfl, ?_, ?_⟩
        · intro name value hmem
          obtain ⟨other, hother, hre⟩ := hothers.exists_mem hmem
          obtain ⟨place, hfind⟩ := find?_membersOfJson hdistinct (hperm.mem_iff.mp hother) 0
          exact ⟨place, other, hfind, hre⟩
        · intro name hname
          exact find?_membersOfJson_eq_none (fun hin => hname (hsame.mem_iff.mp hin)) 0
      -- all names are those of fields, so nothing is left over
      have hstray : Record.strayMember? names .closed 0 [] (membersOfJson shuffled) = none :=
        strayMember?_membersOfJson hdistinct
          (fun name hname => hnames.subset (hsame.mem_iff.mp hname)) (fun _ _ => List.not_mem_nil) 0
      have hremainder : Record.remainder
          ⟨pass, title, names, .named (membersOfJson shuffled) .closed⟩ = .of () := by
        rw [Record.remainder]
        simp only [hstray]
      rw [Node.ofJson, Json.record]
      simp only [hbuild _ hholds, hremainder]
      rfl

end Appraisal
