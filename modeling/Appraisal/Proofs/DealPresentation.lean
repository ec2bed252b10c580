/-
A deal and its fingerprint do not depend on how the deal is presented.

The forms below say, part by part, what a deal leaves open: its sets may be listed in any way, its coverage may
be spelled in several, the inspection, the age of the inventory and two of the sets may be left out. The decoders
of the parts are lawful for these forms. Two texts present the same (`Deal.SamePresentation`) when any number of
changes leads from the tree of one to the tree of the other, in either direction and at any depth. A text that is
decoded to a deal has a tree, and whatever presents the same is decoded to the same deal.

A word that is written as an object is no place for an unknown member, and an unknown key has to be a text
(`Sample.second_key_unreadable`). The forms leave out both.
-/
import Mathlib.Logic.Relation
import Appraisal.Fingerprint
import Appraisal.Proofs.DealText
import Appraisal.Proofs.FaultlessReading
import Appraisal.Proofs.RecordPresentation
import Appraisal.Samples

set_option autoImplicit false

namespace Appraisal

open Json

/-! ## The forms of the parts -/

def Appliance.form : Form :=
  .record [("type", .single, none), ("brand", .single, none), ("model", .single, none),
    ("retailPrice", .single, none), ("askingPrice", .single, none)]

def Damage.form : Form :=
  .record [("locations", .set, none), ("severity", .single, none), ("types", .set, some (.array [] .closed))]

def Retailer.form : Form :=
  .record [("type", .single, none), ("inventoryAgeDays", .single, some .null)]

def Warranty.form : Form :=
  .record [("manufacturerCovered", .coverage, none), ("retailerWarrantyMonths", .single, none),
    ("laborIncluded", .single, none), ("partsIncluded", .single, none), ("extendedAvailable", .single, none)]

def ReturnPolicy.form : Form :=
  .record [("windowDays", .single, none), ("restockingFeePercent", .single, none), ("finalSale", .single, none)]

def Installation.form : Form :=
  .record [("type", .single, none), ("visibleSides", .set, some (.array [] .closed))]

def Buyer.form : Form :=
  .record [("purpose", .single, none), ("riskTolerance", .single, none), ("priceFlexibility", .single, none)]

def Inspection.form : Form :=
  .record [("rustPresent", .single, none), ("waterStaining", .single, none), ("cordDamaged", .single, none),
    ("odorPresent", .single, none), ("missingParts", .single, none), ("priorRepairs", .single, none),
    ("unusualSounds", .single, none), ("powersOn", .single, none)]

/-- How a deal can be presented. -/
def Deal.form : Form :=
  .record [("appliance", Appliance.form, none), ("damage", Damage.form, none), ("retailer", Retailer.form, none),
    ("warranty", Warranty.form, none), ("returnPolicy", ReturnPolicy.form, none),
    ("installation", Installation.form, none), ("buyer", Buyer.form, none),
    ("inspection", Inspection.form, some .null)]

/-! ## The laws of the parts -/

section Values

variable {α : Type} [Vocabulary α]

theorem lawful_word : Lawful .single (decode : Decoder α) :=
  ⟨honours_word, faultless_word⟩

theorem lawful_selection [BEq α] [LawfulBEq α] : Lawful .set (decode : Decoder (Selection α)) :=
  ⟨honours_selection, faultless_selection⟩

end Values

theorem lawful_string : Lawful .single (decode : Decoder String) :=
  ⟨honours_string, faultless_string⟩

theorem lawful_bool : Lawful .single (decode : Decoder Bool) :=
  ⟨honours_bool, faultless_bool⟩

theorem lawful_float : Lawful .single (decode : Decoder Float) :=
  ⟨honours_float, faultless_float⟩

theorem lawful_count : Lawful .single (decode : Decoder UInt32) :=
  ⟨honours_count, faultless_count⟩

theorem lawful_coverage : Lawful .coverage (decode : Decoder Coverage) :=
  ⟨honours_coverage, faultless_coverage⟩

theorem lawful_appliance : Lawful Appliance.form (decode : Decoder Appliance) := by
  refine lawful_record (by decide) ?_
  exact ((builds_get lawful_word (by simp)).map _).seq (builds_get lawful_string (by simp))
    |>.seq (builds_get lawful_string (by simp)) |>.seq (builds_get lawful_float (by simp))
    |>.seq (builds_get lawful_float (by simp))

/-- No marks are the same as an empty list of them. -/
theorem lawful_damage : Lawful Damage.form (decode : Decoder Damage) := by
  refine lawful_record (by decide) ?_
  exact ((builds_get lawful_selection (by simp)).map _).seq (builds_get lawful_word (by simp))
    |>.seq (builds_getD lawful_selection (rfl : decode .direct (.array [] .closed) = _) (by simp))

/-- No age of the inventory is the same as `null`. -/
theorem lawful_retailer : Lawful Retailer.form (decode : Decoder Retailer) := by
  refine lawful_record (by decide) ?_
  exact ((builds_get lawful_word (by simp)).map _).seq
    (builds_getD lawful_count.nullable (rfl : decode .direct .null = _) (by simp))

theorem lawful_warranty : Lawful Warranty.form (decode : Decoder Warranty) := by
  refine lawful_record (by decide) ?_
  exact ((builds_get lawful_coverage (by simp)).map _).seq (builds_get lawful_count (by simp))
    |>.seq (builds_get lawful_bool (by simp)) |>.seq (builds_get lawful_bool (by simp))
    |>.seq (builds_get lawful_bool (by simp))

theorem lawful_returnPolicy : Lawful ReturnPolicy.form (decode : Decoder ReturnPolicy) := by
  refine lawful_record (by decide) ?_
  exact ((builds_get lawful_count (by simp)).map _).seq (builds_get lawful_float (by simp))
    |>.seq (builds_get lawful_bool (by simp))

/-- No visible sides are the same as an empty list of them. -/
theorem lawful_installation : Lawful Installation.form (decode : Decoder Installation) := by
  refine lawful_record (by decide) ?_
  exact ((builds_get lawful_word (by simp)).map _).seq
    (builds_getD lawful_selection (rfl : decode .direct (.array [] .closed) = _) (by simp))

theorem lawful_buyer : Lawful Buyer.form (decode : Decoder Buyer) := by
  refine lawful_record (by decide) ?_
  exact ((builds_get lawful_word (by simp)).map _).seq (builds_get lawful_word (by simp))
    |>.seq (builds_get lawful_word (by simp))

theorem lawful_inspection : Lawful Inspection.form (decode : Decoder Inspection) := by
  refine lawful_record (by decide) ?_
  exact ((builds_get lawful_bool (by simp)).map _).seq (builds_get lawful_bool (by simp))
    |>.seq (builds_get lawful_bool (by simp)) |>.seq (builds_get lawful_bool (by simp))
    |>.seq (builds_get lawful_bool (by simp)) |>.seq (builds_get lawful_bool (by simp))
    |>.seq (builds_get lawful_bool (by simp)) |>.seq (builds_get lawful_bool (by simp))

/-- **Decoding a deal honours the form of a deal, and takes no node with a fault.** -/
theorem lawful_deal : Lawful Deal.form (decode : Decoder Deal) := by
  refine lawful_record (by decide) ?_
  exact ((builds_get lawful_appliance (by simp)).map _).seq (builds_get lawful_damage (by simp))
    |>.seq (builds_get lawful_retailer (by simp)) |>.seq (builds_get lawful_warranty (by simp))
    |>.seq (builds_get lawful_returnPolicy (by simp)) |>.seq (builds_get lawful_installation (by simp))
    |>.seq (builds_get lawful_buyer (by simp))
    |>.seq (builds_getD lawful_inspection.nullable (rfl : decode .direct .null = _) (by simp))

/-! ## Texts -/

/-- What a decoder reads stays the same through any number of changes, made or taken back. -/
theorem Json.Honours.of_eqvGen {α : Type} {form : Form} {decode : Decoder α} (h : Honours form decode)
    {node other : Node} (hchanges : Relation.EqvGen (Change form) node other) (a : α) :
    decode .direct node = .ok a ↔ decode .direct other = .ok a := by
  induction hchanges with
  | rel node other hchange => exact h node other hchange a
  | refl node => exact Iff.rfl
  | symm node other _ ih => exact ih.symm
  | trans node other last _ _ ih ih' => exact ih.trans ih'

namespace Deal

/-- The two texts differ in nothing that counts: white space apart, the tree of one becomes the tree of the other
by changes of presentation. -/
def SamePresentation (text other : String) : Prop :=
  ∃ node node', SpellsText node text ∧ SpellsText node' other ∧ Relation.EqvGen (Change Deal.form) node node'

/-- **A deal does not depend on how it is presented.** A text that is decoded to a deal is JSON text, and every
text that presents the same is decoded to the same deal: with its members at any depth in another order, with
unknown members and any values under them, with other white space, with sets listed in another way, with fields
written out or left out and with the coverage respelled. So the canonical text and the fingerprint are the same,
too. -/
theorem decodeText_of_samePresentation {text : String} {deal : Deal}
    (hdeal : decodeText decode text = .ok deal) :
    (∃ node, SpellsText node text) ∧ ∀ other, SamePresentation text other →
      decodeText decode other = .ok deal
        ∧ (decodeText decode other).map canonicalText = .ok deal.canonicalText
        ∧ (decodeText decode other).map fingerprint = .ok deal.fingerprint := by
  refine ⟨lawful_deal.faultless.exists_spellsText hdeal, ?_⟩
  rintro other ⟨node, node', htext, hother, hchanges⟩
  rw [htext.decodeText_eq] at hdeal
  have hread : decodeText decode other = .ok deal := by
    rw [hother.decodeText_eq]
    exact (lawful_deal.honours.of_eqvGen hchanges deal).mp hdeal
  rw [hread]
  exact ⟨rfl, rfl, rfl⟩

end Deal

namespace Sample

/-- A deal with nothing known about the warranty. -/
def doubtfulRange : Deal :=
  { chippedRange.deal with warranty := { chippedRange.deal.warranty with manufacturer := .unknown } }

/-- The damage of the deal, with its location said twice. -/
def repeatedDamage : Json :=
  .object [("locations", .array [.string "front_door", .string "front_door"]),
    ("severity", .string "minor"), ("types", .array [.string "chip"])]

/-- The warranty of the deal, with the coverage in capitals and blanks around it. -/
def loudWarranty : Json :=
  .object [("manufacturerCovered", .string " UNKNOWN\t"), ("retailerWarrantyMonths", .nat 12),
    ("laborIncluded", .bool false), ("partsIncluded", .bool true), ("extendedAvailable", .bool true)]

/-- The deal in another order, with a remark, and with the inspection that nobody made. -/
def rearrangedRange : Json :=
  .object [("buyer", encode doubtfulRange.buyer), ("installation", encode doubtfulRange.installation),
    ("returnPolicy", encode doubtfulRange.returnPolicy), ("warranty", loudWarranty),
    ("retailer", encode doubtfulRange.retailer), ("damage", repeatedDamage),
    ("appliance", encode doubtfulRange.appliance), ("remark", .object [("seen", .list .nat [1, 2])]),
    ("inspection", .null)]

theorem change_repeatedDamage :
    Change Damage.form (Node.ofJson (encode doubtfulRange.damage)) (Node.ofJson repeatedDamage) :=
  @Change.member _ _ [] _ (.ok "locations") _ _ rfl
    (@Change.regroup [.string (.ok "front_door")] [.string (.ok "front_door"), .string (.ok "front_door")]
      (by simp))

theorem change_loudWarranty :
    Change Warranty.form (Node.ofJson (encode doubtfulRange.warranty)) (Node.ofJson loudWarranty) :=
  @Change.member _ _ [] _ (.ok "manufacturerCovered") _ _ rfl
    (@Change.respell [] [] [' '] ['\t'] "unknown".toList "UNKNOWN".toList (List.all_eq_true.mp (by decide))
      (by decide))

/-- Five changes: one inside each of two parts, a remark, the inspection that was left out, and another order. -/
theorem eqvGen_rearrangedRange :
    Relation.EqvGen (Change Deal.form) (Node.ofJson (encode doubtfulRange)) (Node.ofJson rearrangedRange) := by
  have hdamage := fun behind => @Change.member Deal.form _
    [(.ok "appliance", Node.ofJson (encode doubtfulRange.appliance))] behind (.ok "damage") _ _ rfl
    change_repeatedDamage
  have hwarranty := fun behind => @Change.member Deal.form _
    [(.ok "appliance", Node.ofJson (encode doubtfulRange.appliance)), (.ok "damage", Node.ofJson repeatedDamage),
      (.ok "retailer", Node.ofJson (encode doubtfulRange.retailer))] behind (.ok "warranty") _ _ rfl
    change_loudWarranty
  refine .trans _ _ _ (.rel _ _ (hdamage _)) ?_
  refine .trans _ _ _ (.rel _ _ (hwarranty _)) ?_
  refine .trans _ _ _ (.rel _ _ (@Change.insert _ _ "remark" _ _ (by simp [Deal.form, Form.Ignores])
    (spells_compactChars (.object [("seen", .list .nat [1, 2])])))) ?_
  refine .trans _ _ _ (.rel _ _ (@Change.writeOut _ _ "inspection" Inspection.form .null (by simp)
    (by simp [membersOfJson, memberIfAny, doubtfulRange, chippedRange]))) ?_
  exact .rel _ _ (.permute (List.reverse_perm _).symm)

/-- The rearranged deal is the same deal, also when its text is indented. -/
theorem rearrangedRange_decoded :
    Deal.SamePresentation (compact (encode doubtfulRange)) (indented rearrangedRange)
      ∧ decodeText decode (compact (encode doubtfulRange)) = .ok doubtfulRange
      ∧ decodeText decode (indented rearrangedRange) = .ok doubtfulRange
      ∧ (decodeText decode (indented rearrangedRange)).map Deal.fingerprint = .ok doubtfulRange.fingerprint := by
  have hsame : Deal.SamePresentation (compact (encode doubtfulRange)) (indented rearrangedRange) :=
    ⟨_, _, spellsText_compact _, spellsText_indented _, eqvGen_rearrangedRange⟩
  have hnumbers : doubtfulRange.NumbersReadBack :=
    ⟨by decide +kernel, by decide +kernel, by decide +kernel, rfl, rfl, rfl⟩
  have hdeal : decodeText decode (compact (encode doubtfulRange)) = .ok doubtfulRange :=
    hnumbers.readsBack.decodeText (Rearranged.refl _)
  obtain ⟨hread, -, hfingerprint⟩ := (Deal.decodeText_of_samePresentation hdeal).2 _ hsame
  exact ⟨hsame, hdeal, hread, hfingerprint⟩

/-- The deal with its kind of appliance written as an object, and further members in that object. -/
def keyedRange (members : List (String × Json)) : Json :=
  .object [
    ("appliance", .object [("type", .object (("range", .null) :: members)), ("brand", .string "Hearthmark"),
      ("model", .string "HM-30G"), ("retailPrice", .nat 1200), ("askingPrice", .nat 900)]),
    ("damage", encode doubtfulRange.damage), ("retailer", encode doubtfulRange.retailer),
    ("warranty", encode doubtfulRange.warranty), ("returnPolicy", encode doubtfulRange.returnPolicy),
    ("installation", encode doubtfulRange.installation), ("buyer", encode doubtfulRange.buyer)]

/-- A further member can be written in front of the members of an object. -/
theorem exists_spells_cons {members : List (Quotation × Node)} {cs : List Char}
    (h : Spells (.object members .closed) cs) {key : Quotation} {name : List Char} (hkey : SpellsString key name)
    {value : Node} {text : List Char} (hvalue : Spells value text) :
    ∃ cs', Spells (.object ((key, value) :: members) .closed) cs' := by
  cases h with
  | noMembers => exact ⟨_, .object white_nil (.last hkey white_nil white_nil hvalue white_nil)⟩
  | object _ hmembers =>
      exact ⟨_, .object white_nil (.more hkey white_nil white_nil hvalue white_nil white_nil hmembers)⟩

/-- Not every object takes a further member. A word can be written as an object with the word as its one key, and
a second key makes it unreadable. Nor is every key a name: one that is half of a surrogate pair is JSON text, and
no deal can have it. -/
theorem second_key_unreadable :
    (decodeText (decode : Decoder Deal) (compact (keyedRange []))).isOk = true
      ∧ (decodeText (decode : Decoder Deal) (compact (keyedRange [("remark", .null)]))).isOk = false
      ∧ ∃ members, Node.ofJson (encode doubtfulRange) = .object members .closed
          ∧ ∃ text, SpellsText (.object ((.error .unfinishedPair, .null) :: members) .closed) text
            ∧ (decodeText (decode : Decoder Deal) text).isOk = false := by
  refine ⟨?_, ?_, ?_⟩
  · rw [decodeText_compact]
    decide +kernel
  · rw [decodeText_compact]
    decide +kernel
  · have hhalf : SpellsString (.error .unfinishedPair) ['"', '\\', 'u', 'd', '8', '0', '0', '"'] :=
      .quoted (.unit (show hexUnit? 'd' '8' '0' '0' = some 0xd800 by decide) .nil)
    obtain ⟨cs, hcs⟩ := exists_spells_cons (spells_compactChars (encode doubtfulRange)) hhalf .null
    have htext : SpellsText _ (String.ofList cs) := ⟨[], cs, [], white_nil, hcs, white_nil, by simp⟩
    refine ⟨_, rfl, _, htext, ?_⟩
    rw [htext.decodeText_eq]
    cases hread : (decode : Decoder Deal) .direct _ with
    | error e => rfl
    | ok deal =>
        obtain ⟨name, hname⟩ := (record_object.mp hread).2.texts _ List.mem_cons_self
        cases hname

end Sample

end Appraisal
