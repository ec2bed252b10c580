/-
The canonical form settles the order of members and nothing else.

What is said of every object in a value, however deep it lies, is said by `EachObject`. The members of the objects
have distinct names (`Distinct`) in the values that a deal is written as, and names in increasing order of their
bytes (`InByteOrder`) in a canonical form. To bring a value into canonical form is to sort the members of each
object, and a list with distinct names can be sorted in one way only. So a value in order is its own canonical
form, and two values have the same canonical form exactly if one is a rearrangement of the other.

The canonical text of a deal is the text of a canonical form. In which order somebody goes through the members
before they are sorted makes no difference to it.
-/
import Mathlib.Data.List.Sort
import Appraisal.Proofs.Rearranged
import Appraisal.Proofs.TextBytes
import Appraisal.Samples

set_option autoImplicit false

namespace Appraisal

namespace Json

/-! ## Every object of a value -/

/-- The names of each object in the value, at any depth, have the property. -/
inductive EachObject (p : List String → Prop) : Json → Prop
  | null : EachObject p .null
  | bool (b : Bool) : EachObject p (.bool b)
  | integer (n : Int) : EachObject p (.integer n)
  | real (x : Float) : EachObject p (.real x)
  | string (s : String) : EachObject p (.string s)
  | array {items : List Json} : (∀ item ∈ items, EachObject p item) → EachObject p (.array items)
  | object {members : List (String × Json)} : p (members.map Prod.fst) →
      (∀ member ∈ members, EachObject p member.2) → EachObject p (.object members)

/-- No object has two members of one name. -/
def Distinct : Json → Prop :=
  EachObject List.Nodup

/-- The names of each object increase strictly in the order of their bytes. -/
def InByteOrder : Json → Prop :=
  EachObject (List.Pairwise fun name next => Hash.bytes name < Hash.bytes next)

/-! ## Sorting members -/

theorem sortItems_eq_map (items : List Json) : sortItems items = items.map sortKeys := by
  induction items with
  | nil => rw [sortItems, List.map_nil]
  | cons item items ih => rw [sortItems, ih, List.map_cons]

/-- The member with its value in canonical form. -/
def settleMember (member : String × Json) : String × Json :=
  (member.1, sortKeys member.2)

theorem insertMember_eq_orderedInsert (member : String × Json) (members : List (String × Json)) :
    insertMember member members = members.orderedInsert (fun m other => m.1 ≤ other.1) member := by
  induction members with
  | nil => rfl
  | cons other rest ih =>
      rw [insertMember, List.orderedInsert_cons, ih]
      by_cases h : other.1 < member.1
      · rw [if_pos h, if_neg (not_le.mpr h)]
      · rw [if_neg h, if_pos (not_lt.mp h)]

theorem sortMembers_eq_insertionSort (members : List (String × Json)) :
    sortMembers members
      = (members.map settleMember).insertionSort fun m other => m.1 ≤ other.1 := by
  induction members with
  | nil => rw [sortMembers]; rfl
  | cons member members ih =>
      rw [sortMembers, ih, insertMember_eq_orderedInsert]
      rfl

theorem perm_sortMembers (members : List (String × Json)) :
    (sortMembers members).Perm (members.map settleMember) := by
  rw [sortMembers_eq_insertionSort]
  exact List.perm_insertionSort _ _

theorem names_sortMembers_perm (members : List (String × Json)) :
    ((sortMembers members).map Prod.fst).Perm (members.map Prod.fst) := by
  have hnames : (members.map settleMember).map Prod.fst = members.map Prod.fst := by
    rw [List.map_map]
    rfl
  rw [← hnames]
  exact (perm_sortMembers members).map Prod.fst

/-- Sorting puts distinct names in strictly increasing order. -/
theorem pairwise_names_sortMembers {members : List (String × Json)} (hnodup : (members.map Prod.fst).Nodup) :
    ((sortMembers members).map Prod.fst).Pairwise (· < ·) := by
  have hsorted : ((sortMembers members).map Prod.fst).Pairwise (· ≤ ·) := by
    rw [List.pairwise_map, sortMembers_eq_insertionSort]
    exact List.pairwise_insertionSort _ _
  have hdistinct : ((sortMembers members).map Prod.fst).Nodup :=
    (names_sortMembers_perm members).nodup_iff.mpr hnodup
  exact (hsorted.and hdistinct).imp fun ⟨hle, hne⟩ => lt_of_le_of_ne hle hne

/-- **There is one way to sort members with distinct names**, wherever they stood before. -/
theorem sortMembers_eq_of_perm {members others : List (String × Json)} (hnodup : (members.map Prod.fst).Nodup)
    (hperm : members.Perm others) : sortMembers members = sortMembers others := by
  have hnodup' : (others.map Prod.fst).Nodup := (hperm.map Prod.fst).nodup_iff.mp hnodup
  have hsame : (sortMembers members).Perm (sortMembers others) :=
    (perm_sortMembers members).trans ((hperm.map settleMember).trans (perm_sortMembers others).symm)
  -- two lists of the same members that both increase strictly are one list
  exact hsame.eq_of_pairwise (fun _ _ _ _ hlt hgt => absurd hlt (lt_asymm hgt))
    (List.pairwise_map.mp (pairwise_names_sortMembers hnodup))
    (List.pairwise_map.mp (pairwise_names_sortMembers hnodup'))

/-! ## The canonical form of a value -/

/-- **The canonical form is in order.** -/
theorem Distinct.inByteOrder_sortKeys {value : Json} (h : value.Distinct) : (sortKeys value).InByteOrder := by
  induction h with
  | null => rw [sortKeys]; exact .null
  | bool b => rw [sortKeys]; exact .bool b
  | integer n => rw [sortKeys]; exact .integer n
  | real x => rw [sortKeys]; exact .real x
  | string s => rw [sortKeys]; exact .string s
  | array _ ih =>
      rw [sortKeys, sortItems_eq_map]
      exact .array (List.forall_mem_map.mpr ih)
  | @object members hnodup _ ih =>
      rw [sortKeys]
      refine .object ((pairwise_names_sortMembers hnodup).imp Hash.bytes_lt_bytes_iff.mpr) ?_
      intro member hmember
      -- a member of the sorted list is one of those before, with its value in canonical form
      obtain ⟨before, hbefore, rfl⟩ := List.mem_map.mp ((perm_sortMembers members).mem_iff.mp hmember)
      exact ih before hbefore

/-- **A value in order is its own canonical form.** -/
theorem InByteOrder.sortKeys_eq {value : Json} (h : value.InByteOrder) : sortKeys value = value := by
  induction h with
  | null => rw [sortKeys]
  | bool b => rw [sortKeys]
  | integer n => rw [sortKeys]
  | real x => rw [sortKeys]
  | string s => rw [sortKeys]
  | array _ ih => rw [sortKeys, sortItems_eq_map, (List.map_congr_left ih).trans (List.map_id' _)]
  | @object members hnames _ ih =>
      have hvalues : members.map settleMember = members :=
        (List.map_congr_left fun member hmember => congrArg (Prod.mk member.1) (ih member hmember)).trans
          (List.map_id' _)
      have hsorted : members.Pairwise fun m other => m.1 ≤ other.1 :=
        (List.pairwise_map.mp hnames).imp fun hlt => le_of_lt (Hash.bytes_lt_bytes_iff.mp hlt)
      rw [sortKeys, sortMembers_eq_insertionSort, hvalues, hsorted.insertionSort_eq]

/-- Items one by one, given that rearranging an item does not change its canonical form. -/
theorem ItemsRearranged.sortItems_eq {items others : List Json} (h : ItemsRearranged items others)
    (hitems : ∀ item ∈ items, ∀ other, Rearranged item other → sortKeys item = sortKeys other) :
    sortItems items = sortItems others := by
  induction items generalizing others with
  | nil => cases h; rfl
  | cons item items ih =>
      cases h with
      | cons hfirst hrest =>
          obtain ⟨hitem, hbehind⟩ := List.forall_mem_cons.mp hitems
          rw [sortItems, sortItems, hitem _ hfirst, ih hrest hbehind]

theorem MembersRearranged.map_settleMember_eq {members others : List (String × Json)}
    (h : MembersRearranged members others)
    (hvalues : ∀ member ∈ members, ∀ other, Rearranged member.2 other → sortKeys member.2 = sortKeys other) :
    members.map settleMember = others.map settleMember := by
  induction members generalizing others with
  | nil => cases h; rfl
  | cons member members ih =>
      cases h with
      | cons name hfirst hrest =>
          obtain ⟨hvalue, hbehind⟩ := List.forall_mem_cons.mp hvalues
          rw [List.map_cons, List.map_cons, ih hrest hbehind, settleMember, settleMember, hvalue _ hfirst]

/-- **Rearranged values have the same canonical form.** The values under the names have it, and then the members
are sorted. -/
theorem Distinct.sortKeys_eq_of_rearranged {value other : Json} (h : value.Distinct)
    (hre : Rearranged value other) : sortKeys value = sortKeys other := by
  induction h generalizing other with
  | null => cases hre; rfl
  | bool b => cases hre; rfl
  | integer n => cases hre; rfl
  | real x => cases hre; rfl
  | string s => cases hre; rfl
  | array _ ih =>
      cases hre with
      | array hitems => rw [sortKeys, sortKeys, hitems.sortItems_eq ih]
  | @object members hnodup _ ih =>
      cases hre with
      | @object _ others shuffled hmembers hperm =>
          -- rearranging the values leaves the names, and then only the order differs
          have hnodup' : (others.map Prod.fst).Nodup := by
            rw [hmembers.names_eq]
            exact hnodup
          have hsettled : sortMembers members = sortMembers others := by
            rw [sortMembers_eq_insertionSort, sortMembers_eq_insertionSort, hmembers.map_settleMember_eq ih]
          rw [sortKeys, sortKeys, hsettled, sortMembers_eq_of_perm hnodup' hperm]

/-- **The canonical form forgets the order of members, and nothing else.** -/
theorem Distinct.sortKeys_eq_iff {value other : Json} (h : value.Distinct) :
    sortKeys value = sortKeys other ↔ Rearranged value other := by
  refine ⟨fun heq => ?_, h.sortKeys_eq_of_rearranged⟩
  -- both are rearrangements of the form that they share
  have hother : Rearranged (sortKeys value) other := by
    rw [heq]
    exact (rearranged_sortKeys other).symm
  exact (rearranged_sortKeys value).trans hother

/-! ## Written forms -/

/-- A record with distinct names, field by field. -/
theorem Distinct.record {members : List (String × Json)} (hnames : (members.map Prod.fst).Nodup)
    (hvalues : members.Forall fun member => member.2.Distinct) : (Json.object members).Distinct :=
  .object hnames (List.forall_iff_forall_mem.mp hvalues)

theorem distinct_selection {α : Type} [Vocabulary α] [BEq α] (s : Selection α) : (encode s).Distinct :=
  .array (List.forall_mem_map.mpr fun _ _ => .string _)

theorem distinct_coverage (c : Coverage) : (encode c).Distinct := by
  cases c with
  | covered => exact .bool true
  | notCovered => exact .bool false
  | unknown => exact .string "unknown"

theorem distinct_appliance (a : Appliance) : (encode a).Distinct :=
  .record (by simp) ⟨.string _, .string _, .string _, .real _, .real _⟩

theorem distinct_damage (d : Damage) : (encode d).Distinct :=
  .record (by simp) ⟨distinct_selection _, .string _, distinct_selection _⟩

theorem distinct_retailer (s : Retailer) : (encode s).Distinct := by
  obtain ⟨kind, age⟩ := s
  cases age with
  | none => exact .record (by simp [memberIfAny]) (.string _)
  | some days => exact .record (by simp [memberIfAny]) ⟨.string _, .integer _⟩

theorem distinct_warranty (w : Warranty) : (encode w).Distinct :=
  .record (by simp) ⟨distinct_coverage _, .integer _, .bool _, .bool _, .bool _⟩

theorem distinct_returnPolicy (p : ReturnPolicy) : (encode p).Distinct :=
  .record (by simp) ⟨.integer _, .real _, .bool _⟩

theorem distinct_installation (i : Installation) : (encode i).Distinct :=
  .record (by simp) ⟨.string _, distinct_selection _⟩

theorem distinct_buyer (b : Buyer) : (encode b).Distinct :=
  .record (by simp) ⟨.string _, .string _, .string _⟩

theorem distinct_inspection (i : Inspection) : (encode i).Distinct :=
  .record (by simp) ⟨.bool _, .bool _, .bool _, .bool _, .bool _, .bool _, .bool _, .bool _⟩

/-- No object in the written form of a deal has two members of one name. -/
theorem distinct_deal (deal : Deal) : (encode deal).Distinct := by
  obtain ⟨appliance, damage, retailer, warranty, policy, installation, buyer, inspection⟩ := deal
  cases inspection with
  | none =>
      exact .record (by simp [memberIfAny]) ⟨distinct_appliance _, distinct_damage _, distinct_retailer _,
        distinct_warranty _, distinct_returnPolicy _, distinct_installation _, distinct_buyer _⟩
  | some found =>
      exact .record (by simp [memberIfAny]) ⟨distinct_appliance _, distinct_damage _, distinct_retailer _,
        distinct_warranty _, distinct_returnPolicy _, distinct_installation _, distinct_buyer _,
        distinct_inspection _⟩

end Json

/-- **The canonical form settles the order of members and nothing else.** Of a value in which no object has two
members of one name it is a rearrangement in which the names of every object increase strictly in the order of
their bytes. To bring it into canonical form again changes nothing, and another value has the same canonical form
exactly if it is a rearrangement. The written form of a deal is such a value, and so the canonical text of the
deal can be taken from any rearrangement of it. -/
theorem Json.canonical_form_settles_order :
    (∀ value : Json, value.Distinct →
        Rearranged value (sortKeys value)
          ∧ (sortKeys value).InByteOrder
          ∧ sortKeys (sortKeys value) = sortKeys value
          ∧ ∀ other, sortKeys value = sortKeys other ↔ Rearranged value other)
      ∧ ∀ deal : Deal, (encode deal).Distinct
          ∧ ∀ written, Rearranged (encode deal) written → compact (sortKeys written) = deal.canonicalText := by
  refine ⟨fun value h => ?_, fun deal => ⟨distinct_deal deal, fun written hre => ?_⟩⟩
  · exact ⟨rearranged_sortKeys value, h.inByteOrder_sortKeys, h.inByteOrder_sortKeys.sortKeys_eq,
      fun _ => h.sortKeys_eq_iff⟩
  · rw [Deal.canonicalText, (distinct_deal deal).sortKeys_eq_of_rearranged hre]

/-- A value with an object in a list in an object, and the same members in another order at each of the three
depths. A halfwidth full stop has smaller bytes than a face, although it stands behind it where texts are compared
in units of sixteen bits. The refrigerator may be written with its damage in front. -/
theorem Json.nested_members_settled :
    let marks := Json.object [("😀", .integer 2), ("\uff61", .integer 3)]
    let sortedMarks := Json.object [("\uff61", .integer 3), ("😀", .integer 2)]
    let part := Json.object [("z", .integer 1), ("a", .array [marks, .null])]
    let sortedPart := Json.object [("a", .array [sortedMarks, .null]), ("z", .integer 1)]
    let value := Json.object [("b", part), ("a", .integer 0)]
    let sorted := Json.object [("a", .integer 0), ("b", sortedPart)]
    let deal := Sample.dentedRefrigerator.deal
    let written := Json.object <| [("damage", encode deal.damage), ("appliance", encode deal.appliance),
      ("retailer", encode deal.retailer), ("warranty", encode deal.warranty),
      ("returnPolicy", encode deal.returnPolicy), ("installation", encode deal.installation),
      ("buyer", encode deal.buyer)] ++ memberIfAny "inspection" encode deal.inspection
    value.Distinct ∧ Rearranged value sorted ∧ sortKeys value = sortKeys sorted ∧ sortKeys sorted = sorted
      ∧ (sortKeys value).InByteOrder ∧ sortKeys (sortKeys value) = sortKeys value
      ∧ Rearranged (encode deal) written ∧ compact (sortKeys written) = deal.canonicalText := by
  intro marks sortedMarks part sortedPart value sorted deal written
  have hmarks : marks.Distinct := .record (by simp) ⟨.integer 2, .integer 3⟩
  have hlist : (Json.array [marks, .null]).Distinct := .array (by simpa using ⟨hmarks, .null⟩)
  have hdistinct : value.Distinct :=
    .record (by simp) ⟨.record (by simp) ⟨.integer 1, hlist⟩, .integer 0⟩
  -- from the inside out: each depth has its members swapped
  have hshuffledMarks : Rearranged marks sortedMarks :=
    .object (MembersRearranged.refl _) (List.Perm.swap _ _ _)
  have hshuffledPart : Rearranged part sortedPart :=
    .object (.cons "z" (.integer 1) (.cons "a" (.array (.cons hshuffledMarks (.cons .null .nil))) .nil))
      (List.Perm.swap _ _ _)
  have hshuffled : Rearranged value sorted :=
    .object (.cons "b" hshuffledPart (.cons "a" (.integer 0) .nil)) (List.Perm.swap _ _ _)
  have hsorted : sortKeys sorted = sorted := by
    simp only [sorted, sortedPart, sortedMarks]
    rfl
  have hwritten : Rearranged (encode deal) written :=
    .object (MembersRearranged.refl _) (List.Perm.swap _ _ _)
  obtain ⟨hvalues, hdeals⟩ := canonical_form_settles_order
  obtain ⟨-, horder, htwice, hsame⟩ := hvalues value hdistinct
  exact ⟨hdistinct, hshuffled, (hsame sorted).mpr hshuffled, hsorted, horder, htwice, hwritten,
    (hdeals deal).2 written hwritten⟩

end Appraisal
