/-
Printed text is read as the tree of the value that was printed.

A JSON value has a tree of its own (`Node.ofJson`): nothing in it is broken, a number is the literal of its
text, and a double that is no finite number has become `null`. The compact text and the indented text of a value
are texts of that tree, so reading either gives exactly the tree and leaves nothing over, for every value: whatever
its texts, however deep it is nested, and also where a name occurs twice.

So whatever a decoder makes of a printed value can be said about the tree alone.
-/
import Appraisal.Json.Bytes
import Appraisal.Proofs.Grammar

set_option autoImplicit false

namespace Appraisal

open Json

/-! ## The tree of a value -/

/-- The literal by which a finite double is written. -/
def Literal.ofReal (x : Float) : Literal :=
  match scanNumber (realText x) with
  | .ok (l, _) => l
  | .error _ => .ofInt 0

mutual

/-- The tree of a value. -/
def Json.Node.ofJson : Json → Node
  | .null => .null
  | .bool b => .bool b
  | .integer n => .number (.ofInt n)
  | .real x => if Binary64.isFinite x then .number (.ofReal x) else .null
  | .string s => .string (.ok s)
  | .array items => .array (itemsOfJson items) .closed
  | .object members => .object (membersOfJson members) .closed

/-- The trees of the items of an array. -/
def Json.itemsOfJson : List Json → List Node
  | [] => []
  | item :: rest => Node.ofJson item :: itemsOfJson rest

/-- The trees of the members of an object, under the same names. -/
def Json.membersOfJson : List (String × Json) → List (Quotation × Node)
  | [] => []
  | (name, value) :: rest => (.ok name, Node.ofJson value) :: membersOfJson rest

end

namespace Json

/-! ## Numbers -/

theorem ofReal_spec {x : Float} (hx : Binary64.isFinite x = true) :
    (Literal.ofReal x).Proper ∧ (Literal.ofReal x).text = realText x
      ∧ Decimal.LaidOut .json (.ofShape (Binary64.shape x)) (Literal.ofReal x) := by
  obtain ⟨l, hproper, htext, hdigits⟩ := exists_literal_realText hx
  have hends : EndsNumber [] := by simp [EndsNumber]
  have hscan := scanNumber_text hproper hends
  rw [List.append_nil, htext] at hscan
  rw [Literal.ofReal, hscan]
  exact ⟨hproper, htext, hdigits⟩

theorem spells_text {l : Literal} (h : l.Proper) : Spells (.number l) l.text :=
  .number h (Literal.spellsExponent_exponentText l.exponent)

theorem spells_integerText (n : Int) : Spells (Node.ofJson (.integer n)) (integerText n) := by
  rw [Node.ofJson, ← Literal.text_ofInt]
  exact spells_text (Literal.proper_ofInt n)

theorem spells_realText (x : Float) : Spells (Node.ofJson (.real x)) (realText x) := by
  rw [Node.ofJson]
  by_cases hx : Binary64.isFinite x = true
  · obtain ⟨hproper, htext, -⟩ := ofReal_spec hx
    rw [if_pos hx, ← htext]
    exact spells_text hproper
  · rw [if_neg hx, realText, if_neg hx]
    exact .null

theorem spells_stringText (s : String) : Spells (Node.ofJson (.string s)) (stringText s) := by
  rw [Node.ofJson]
  exact .string (spellsString_stringText s)

/-! ## Compact text -/

theorem white_nil : White [] :=
  fun _ hc => absurd hc List.not_mem_nil

mutual

/-- **Compact text is a text of the tree of its value.** -/
theorem spells_compactChars : ∀ value : Json, Spells (Node.ofJson value) (compactChars value)
  | .null => by rw [Node.ofJson, compactChars]; exact .null
  | .bool b => by rw [Node.ofJson, compactChars]; exact .bool b
  | .integer n => by rw [compactChars]; exact spells_integerText n
  | .real x => by rw [compactChars]; exact spells_realText x
  | .string s => by rw [compactChars]; exact spells_stringText s
  | .array [] => by
      rw [Node.ofJson, compactChars]
      exact .noItems white_nil
  | .array (item :: items) => by
      rw [Node.ofJson, compactChars]
      exact @Spells.array _ [] _ white_nil (spellsItems_compactItemsAfter items (spells_compactChars item))
  | .object [] => by
      rw [Node.ofJson, compactChars]
      exact .noMembers white_nil
  | .object ((name, value) :: members) => by
      rw [Node.ofJson, compactChars]
      exact @Spells.object _ [] _ white_nil
        (spellsMembers_compactMembersAfter members name (spells_compactChars value))

/-- The items of an array, behind the text of the first one. -/
theorem spellsItems_compactItemsAfter : ∀ (items : List Json) {first : Node} {cs : List Char},
    Spells first cs → SpellsItems (first :: itemsOfJson items) (cs ++ compactItemsAfter items)
  | [], _, _, hfirst => .last hfirst white_nil
  | item :: items, _, _, hfirst =>
      @SpellsItems.more _ _ _ [] [] _ hfirst white_nil white_nil
        (spellsItems_compactItemsAfter items (spells_compactChars item))

/-- The members of an object, behind the name of the first one and the text of its value. -/
theorem spellsMembers_compactMembersAfter : ∀ (members : List (String × Json)) (name : String) {first : Node}
    {cs : List Char}, Spells first cs → SpellsMembers ((.ok name, first) :: membersOfJson members)
      (stringText name ++ (':' :: (cs ++ compactMembersAfter members)))
  | [], name, _, _, hfirst =>
      @SpellsMembers.last _ _ _ _ [] [] [] (spellsString_stringText name) white_nil white_nil hfirst white_nil
  | (other, value) :: members, name, _, _, hfirst =>
      @SpellsMembers.more _ _ _ _ _ [] [] [] [] _ (spellsString_stringText name) white_nil white_nil hfirst
        white_nil white_nil (spellsMembers_compactMembersAfter members other (spells_compactChars value))

end

/-! ## Indented text -/

theorem white_newLine (depth : Nat) : White (newLine depth) := by
  intro c hc
  rcases List.mem_cons.mp hc with rfl | hc
  · decide
  · rw [List.eq_of_mem_replicate hc]
    decide

theorem white_space : White [' '] := by
  intro c hc
  rw [List.mem_singleton.mp hc]
  decide

mutual

/-- **Indented text is a text of the same tree**, at every depth. -/
theorem spells_indentedChars : ∀ (depth : Nat) (value : Json),
    Spells (Node.ofJson value) (indentedChars depth value)
  | _, .null => by rw [Node.ofJson, indentedChars]; exact .null
  | _, .bool b => by rw [Node.ofJson, indentedChars]; exact .bool b
  | _, .integer n => by rw [indentedChars]; exact spells_integerText n
  | _, .real x => by rw [indentedChars]; exact spells_realText x
  | _, .string s => by rw [indentedChars]; exact spells_stringText s
  | _, .array [] => by
      rw [Node.ofJson, indentedChars]
      exact .noItems white_nil
  | depth, .array (item :: items) => by
      rw [Node.ofJson, indentedChars, List.append_assoc]
      exact .array (white_newLine _)
        (spellsItems_indentedItems depth items (spells_indentedChars (depth + 1) item))
  | _, .object [] => by
      rw [Node.ofJson, indentedChars]
      exact .noMembers white_nil
  | depth, .object ((name, value) :: members) => by
      rw [Node.ofJson, indentedChars]
      simp only [List.append_assoc]
      exact .object (white_newLine _)
        (spellsMembers_indentedMembers depth members name (spells_indentedChars (depth + 1) value))

theorem spellsItems_indentedItems : ∀ (depth : Nat) (items : List Json) {first : Node} {cs : List Char},
    Spells first cs → SpellsItems (first :: itemsOfJson items) (cs ++ indentedItems depth items)
  | depth, [], _, _, hfirst => .last hfirst (white_newLine depth)
  | depth, item :: items, _, _, hfirst => by
      rw [indentedItems, List.append_assoc]
      exact @SpellsItems.more _ _ _ [] _ _ hfirst white_nil (white_newLine _)
        (spellsItems_indentedItems depth items (spells_indentedChars (depth + 1) item))

theorem spellsMembers_indentedMembers : ∀ (depth : Nat) (members : List (String × Json)) (name : String)
    {first : Node} {cs : List Char}, Spells first cs → SpellsMembers ((.ok name, first) :: membersOfJson members)
      (stringText name ++ ([':', ' '] ++ (cs ++ indentedMembers depth members)))
  | depth, [], name, _, _, hfirst =>
      @SpellsMembers.last _ _ _ _ [] _ _ (spellsString_stringText name) white_nil white_space hfirst
        (white_newLine depth)
  | depth, (other, value) :: members, name, _, _, hfirst => by
      rw [indentedMembers]
      simp only [List.append_assoc]
      exact @SpellsMembers.more _ _ _ _ _ [] _ [] _ _ (spellsString_stringText name) white_nil white_space hfirst
        white_nil (white_newLine _)
        (spellsMembers_indentedMembers depth members other (spells_indentedChars (depth + 1) value))

end

/-! ## Whole texts -/

theorem spellsText_compact (value : Json) : SpellsText (Node.ofJson value) (compact value) :=
  ⟨[], _, [], white_nil, spells_compactChars value, white_nil, by
    rw [compact, String.toList_ofList, List.nil_append, List.append_nil]⟩

theorem spellsText_indented (value : Json) : SpellsText (Node.ofJson value) (indented value) :=
  ⟨[], _, [], white_nil, spells_indentedChars 0 value, white_nil, by
    rw [indented, String.toList_ofList, List.nil_append, List.append_nil]⟩

/-- **A compact text is a whole text**: the tree of its value and nothing behind it. -/
theorem Document.read_compact (value : Json) :
    Document.read (compact value) = ⟨Node.ofJson value, false⟩ :=
  Document.read_of_spellsText (spellsText_compact value)

/-- Decoding a text of a tree is decoding the tree. -/
theorem SpellsText.decodeText_eq {node : Node} {text : String} (h : SpellsText node text) {α : Type}
    (decode : Decoder α) : decodeText decode text = decode .direct node := by
  rw [decodeText, Document.read_of_spellsText h]
  cases decode .direct node <;> rfl

variable {α : Type}

/-- Decoding a compact text is decoding the tree of its value. -/
theorem decodeText_compact (decode : Decoder α) (value : Json) :
    decodeText decode (compact value) = decode .direct (Node.ofJson value) :=
  (spellsText_compact value).decodeText_eq decode

/-- Decoding the bytes of a compact text is decoding the tree of its value. -/
theorem decodeStart_compact (decode : Decoder α) (value : Json) :
    decodeStart decode (compact value).toUTF8 = decode .direct (Node.ofJson value) := by
  rw [decodeStart, Document.ofBytes_toUTF8, Document.read_compact]

end Json

end Appraisal
