/-
The kinds of value that every record uses are read back.

There is one law for each kind: words, texts, Booleans and counts are read back as they are, and lists, sets,
pairs and values that may be missing are read if their parts are. A double is read as whatever double its own
text is read as.
-/
import Appraisal.Proofs.NumberValue
import Appraisal.Proofs.Rearranged

set_option autoImplicit false

namespace Appraisal

open Json

/-! ## Values without parts -/

/-- A member of a kind is read back from its word. -/
theorem readsBack_word {α : Type} [Vocabulary α] (a : α) : ReadsBack a := by
  rintro value ⟨⟩ pass
  show Decoder.member (Vocabulary.word a) = .ok a
  rw [Decoder.member, Vocabulary.ofWord?_word]

theorem readsBack_string (s : String) : ReadsBack s := by
  rintro value ⟨⟩ pass
  rfl

theorem readsBack_bool (b : Bool) : ReadsBack b := by
  rintro value ⟨⟩ pass
  rfl

/-- A count is read back from its digits. -/
theorem readsBack_count (n : UInt32) : ReadsBack n := by
  rintro value ⟨⟩ pass
  have hnumeral := Literal.numeral_ofInt (Nat.lt_trans n.toNat_lt (by decide : 2 ^ 32 < UInt64.size))
  show (Decoder.natBelow UInt32.size "u32" pass (.number (.ofInt n.toNat))).map UInt32.ofNat = .ok n
  rw [Decoder.natBelow, hnumeral]
  simp only
  rw [if_pos n.toNat_lt]
  exact congrArg Except.ok (UInt32.ofNat_toNat)

/-! ## Doubles -/

/-- A double is read inside every value as it is read by itself. -/
theorem reads_float {x y : Float} (hx : decodeText decode (compact (encode x)) = .ok y) :
    Reads decode (encode x) y := by
  rintro value ⟨⟩ pass
  have hpass : ∀ node, Decoder.float pass node = Decoder.float .direct node := by
    intro node
    cases node <;> rfl
  rw [decodeText_compact] at hx
  exact (hpass _).trans hx

/-- The double that the text of a double is read as, if it is read as one. -/
def reread (x : Float) : Float :=
  ((decodeText decode (compact (encode x))).toOption).getD x

/-- **The text of a finite double is read as a double.** -/
theorem decodeText_encode_float {x : Float} (hx : Binary64.isFinite x = true) :
    decodeText decode (compact (encode x)) = .ok (reread x) := by
  obtain ⟨n, hn⟩ := Option.isSome_iff_exists.mp (Literal.isSome_numeral_ofReal hx)
  have hdecode : decodeText decode (compact (encode x)) = .ok n.toFloat := by
    rw [decodeText_compact]
    show Decoder.float .direct (Node.ofJson (.real x)) = _
    rw [Node.ofJson, if_pos hx, Decoder.float, hn]
  rw [reread, hdecode]
  rfl

/-! ## Lists -/

/-- The items of a list are read one by one, in the order in which they are written. -/
theorem decodeItems_encode {α : Type} [Codec α] {as : List α} (has : ∀ a ∈ as, ReadsBack a)
    {items : List Json} (hitems : ItemsRearranged (as.map encode) items) (pass : Pass) (position : Nat) :
    Decoder.decodeItems decode pass position (itemsOfJson items) = .ok as := by
  induction as generalizing items position with
  | nil =>
      cases hitems
      rfl
  | cons a as ih =>
      obtain ⟨ha, has⟩ := List.forall_mem_cons.mp has
      rcases hitems with _ | ⟨hitem, hitems⟩
      rw [itemsOfJson, Decoder.decodeItems, ha _ hitem pass, ih has hitems]
      rfl

theorem readsBack_list {α : Type} [Codec α] (as : List α) (has : ∀ a ∈ as, ReadsBack a) :
    ReadsBack as := by
  rintro value hvalue pass
  rcases hvalue with _ | _ | _ | _ | _ | hitems
  rw [Node.ofJson]
  show Decoder.list decode pass (.array (itemsOfJson _) .closed) = .ok as
  rw [Decoder.list, decodeItems_encode has hitems]
  rfl

/-- A set of members of a kind is read back from the list of their words. -/
theorem readsBack_selection {α : Type} [Vocabulary α] [BEq α] [LawfulBEq α] (s : Selection α) :
    ReadsBack s := by
  intro value hvalue pass
  show (Decoder.list decode pass (Node.ofJson value)).map Selection.ofList = .ok s
  have hlist : Decoder.list decode pass (Node.ofJson value) = .ok s.toList :=
    readsBack_list s.toList (fun a _ => readsBack_word a) value hvalue pass
  rw [hlist]
  exact congrArg Except.ok (Selection.ofList_toList s)

/-- A pair is read if both of its parts are. -/
theorem reads_pair {α : Type} [Codec α] {a b a' b' : α} (ha : Reads decode (encode a) a')
    (hb : Reads decode (encode b) b') : Reads decode (encode (a, b)) (a', b') := by
  rintro value hvalue pass
  rcases hvalue with _ | _ | _ | _ | _ | ⟨_ | ⟨hfirst, _ | ⟨hsecond, ⟨⟩⟩⟩⟩
  rw [Node.ofJson, itemsOfJson, itemsOfJson, itemsOfJson]
  show Decoder.pair decode pass (.array _ .closed) = .ok (a', b')
  simp only [Decoder.pair, List.take_succ_cons, List.take_zero, Decoder.decodeItems, ha _ hfirst pass,
    hb _ hsecond pass]
  rfl

/-! ## Values that may be missing -/

/-- The tree of a value is nowhere broken, so not here either. -/
theorem ofJson_ne_broken (value : Json) (wreck : Wreck) : Node.ofJson value ≠ .broken wreck := by
  cases value with
  | real x => rw [Node.ofJson]; split <;> exact Node.noConfusion
  | null | bool | integer | string | array | object => rw [Node.ofJson]; exact Node.noConfusion

/-- A value that may be missing is read back if it is there and not written as `null`. -/
theorem readsBack_some {α : Type} [Codec α] {a : α} (ha : ReadsBack a)
    (hnull : ∀ value, Rearranged (encode a) value → Node.ofJson value ≠ .null) : ReadsBack (some a) := by
  intro value hvalue pass
  have hdecode := ha value hvalue pass
  show Decoder.nullable decode pass (Node.ofJson value) = .ok (Option.some a)
  rw [Decoder.nullable.eq_def]
  split
  · next heq => exact absurd heq (hnull value hvalue)
  · next heq => exact absurd heq (ofJson_ne_broken value _)
  · rw [hdecode]
    rfl

theorem readsBack_some_count (n : UInt32) : ReadsBack (some n) := by
  refine readsBack_some (readsBack_count n) ?_
  rintro value ⟨⟩
  rw [Node.ofJson]
  exact Node.noConfusion

/-- A value that is written as a text may be missing: no text is written as `null`. -/
theorem readsBack_option {α : Type} [Codec α] (o : Option α)
    (ho : ∀ a ∈ o, ReadsBack a ∧ ∃ s, encode a = .string s) : ReadsBack o := by
  cases o with
  | none =>
      rintro value ⟨⟩ pass
      rfl
  | some a =>
      obtain ⟨ha, s, hs⟩ := ho a rfl
      refine readsBack_some ha ?_
      rw [hs]
      rintro value ⟨⟩
      rw [Node.ofJson]
      exact Node.noConfusion

/-! ## Texts -/

/-- What a rearrangement is decoded to is also what its text is decoded to. -/
theorem Json.Reads.decodeText {α : Type} {decode : Decoder α} {written : Json} {a : α}
    (ha : Reads decode written a) {value : Json} (hvalue : Rearranged written value) :
    Json.decodeText decode (compact value) = .ok a := by
  rw [decodeText_compact, ha value hvalue]

end Appraisal
