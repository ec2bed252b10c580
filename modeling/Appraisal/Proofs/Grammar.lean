/-
What JSON text is, and that the reader reads it.

`Spells` relates a tree to its texts. It says what may stand where and knows nothing of how text is read: white
space of any length around every token, a string piece by piece, a number with its exponent in any of the ways
JSON has for it, items and members with commas between them. One tree has many texts, and a text of a tree is
read as that tree (`Document.read_of_spellsText`), however long and however deep it is.

A key or a string that no sequence of characters spells, such as one half of a surrogate pair, is still JSON text.
The tree then holds the fault that shows when somebody reads the string.
-/
import Appraisal.Json.Reader
import Appraisal.Proofs.NumberText
import Appraisal.Proofs.QuotationText

set_option autoImplicit false

namespace Appraisal.Json

/-! ## The texts of a tree -/

/-- White space, of any length. -/
def White (cs : List Char) : Prop :=
  ∀ c ∈ cs, isSpace c = true

mutual

/-- The texts of a tree, from its first token to its last one. -/
inductive Spells : Node → List Char → Prop
  | null : Spells .null ['n', 'u', 'l', 'l']
  | bool (b : Bool) : Spells (.bool b) (if b then ['t', 'r', 'u', 'e'] else ['f', 'a', 'l', 's', 'e'])
  | number {l : Literal} {exponent : List Char} : l.Proper → Literal.SpellsExponent l.exponent exponent →
      Spells (.number l) (l.significandText ++ exponent)
  | string {text : Quotation} {cs : List Char} : SpellsString text cs → Spells (.string text) cs
  | noItems {gap : List Char} : White gap → Spells (.array [] .closed) ('[' :: (gap ++ [']']))
  | array {items : List Node} {gap cs : List Char} : White gap → SpellsItems items cs →
      Spells (.array items .closed) ('[' :: (gap ++ cs))
  | noMembers {gap : List Char} : White gap → Spells (.object [] .closed) ('\x7b' :: (gap ++ ['\x7d']))
  | object {members : List (Quotation × Node)} {gap cs : List Char} : White gap → SpellsMembers members cs →
      Spells (.object members .closed) ('\x7b' :: (gap ++ cs))

/-- The items of an array, of which there is at least one, and its closing bracket. -/
inductive SpellsItems : List Node → List Char → Prop
  | last {item : Node} {cs gap : List Char} : Spells item cs → White gap →
      SpellsItems [item] (cs ++ (gap ++ [']']))
  | more {item : Node} {items : List Node} {cs gap gap' rest : List Char} : Spells item cs → White gap →
      White gap' → SpellsItems items rest →
      SpellsItems (item :: items) (cs ++ (gap ++ ',' :: (gap' ++ rest)))

/-- The members of an object, of which there is at least one, and its closing brace. -/
inductive SpellsMembers : List (Quotation × Node) → List Char → Prop
  | last {key : Quotation} {value : Node} {name cs gap gap' gap'' : List Char} : SpellsString key name →
      White gap → White gap' → Spells value cs → White gap'' →
      SpellsMembers [(key, value)] (name ++ (gap ++ ':' :: (gap' ++ (cs ++ (gap'' ++ ['\x7d'])))))
  | more {key : Quotation} {value : Node} {members : List (Quotation × Node)}
      {name cs gap gap' gap'' gap₃ rest : List Char} : SpellsString key name →
      White gap → White gap' → Spells value cs → White gap'' → White gap₃ → SpellsMembers members rest →
      SpellsMembers ((key, value) :: members)
        (name ++ (gap ++ ':' :: (gap' ++ (cs ++ (gap'' ++ ',' :: (gap₃ ++ rest))))))

end

/-- A whole text: a tree with white space around it. -/
def SpellsText (node : Node) (text : String) : Prop :=
  ∃ before cs behind, White before ∧ Spells node cs ∧ White behind ∧ text.toList = before ++ (cs ++ behind)

/-! ## White space -/

theorem skipSpace_append {gap : List Char} (hgap : White gap) (cs : List Char) :
    skipSpace (gap ++ cs) = skipSpace cs := by
  rw [skipSpace, skipSpace, List.dropWhile_append_of_pos hgap]

/-- White space in front of a value is passed over. -/
theorem parseValue_append_gap {gap : List Char} (hgap : White gap) (supply : Nat) (cs : List Char) :
    parseValue (supply + 1) (gap ++ cs) = parseValue (supply + 1) cs := by
  rw [parseValue, parseValue, skipSpace_append hgap]

/-- What can stand behind a value: white space, a comma or the end of a container. -/
def FollowsValue (rest : List Char) : Prop :=
  ∀ c ∈ rest.head?, isSpace c = true ∨ c = ',' ∨ c = ']' ∨ c = '\x7d'

theorem followsValue_append {gap rest : List Char} (hgap : White gap) (hrest : FollowsValue rest) :
    FollowsValue (gap ++ rest) := by
  cases gap with
  | nil => exact hrest
  | cons c gap => rintro _ ⟨⟩; exact Or.inl (hgap c List.mem_cons_self)

theorem followsValue_cons {c : Char} {rest : List Char} (hc : c = ',' ∨ c = ']' ∨ c = '\x7d') :
    FollowsValue (c :: rest) := by
  rintro _ ⟨⟩
  exact Or.inr hc

theorem FollowsValue.endsNumber {rest : List Char} (h : FollowsValue rest) : EndsNumber rest := by
  intro c hc
  rcases h c hc with hspace | rfl | rfl | rfl
  · simp only [isSpace, Bool.or_eq_true, decide_eq_true_eq] at hspace
    rcases hspace with ((rfl | rfl) | rfl) | rfl <;> decide
  all_goals decide

/-- A text that starts with a token, and not with the end of an array. -/
def StartsValue (cs : List Char) : Prop :=
  ∃ c behind, cs = c :: behind ∧ isSpace c = false ∧ c ≠ ']'

theorem StartsValue.append {cs : List Char} (h : StartsValue cs) (rest : List Char) :
    StartsValue (cs ++ rest) := by
  obtain ⟨c, behind, rfl, hc⟩ := h
  exact ⟨c, behind ++ rest, rfl, hc⟩

theorem StartsValue.skipSpace_eq {cs : List Char} (h : StartsValue cs) : skipSpace cs = cs := by
  obtain ⟨c, behind, rfl, hspace, _⟩ := h
  rw [skipSpace, List.dropWhile_cons_of_neg (by simp [hspace])]

theorem StartsValue.length_pos {cs : List Char} (h : StartsValue cs) : 0 < cs.length := by
  obtain ⟨c, behind, rfl, _⟩ := h
  exact Nat.succ_pos _

/-! ## Single values -/

/-- The text of a number starts with a sign or a digit. -/
theorem exists_head_significandText {l : Literal} (h : l.Proper) :
    ∃ c behind, l.significandText = c :: behind ∧ (c = '-' ∨ c.isDigit = true) := by
  rw [Literal.significandText]
  cases l.negative with
  | true => exact ⟨'-', _, rfl, Or.inl rfl⟩
  | false =>
      have hne := h.whole_ne_nil
      have hds := h.whole_digits
      generalize l.whole = whole at hne hds
      cases whole with
      | nil => exact absurd rfl hne
      | cons d ds => exact ⟨d, _, rfl, Or.inr (hds d List.mem_cons_self)⟩

theorem startsValue_significandText {l : Literal} (h : l.Proper) : StartsValue l.significandText := by
  obtain ⟨c, behind, hc, hsign | hdigit⟩ := exists_head_significandText h
  · exact ⟨c, behind, hc, by subst hsign; decide, by subst hsign; decide⟩
  · refine ⟨c, behind, hc, ?_, ?_⟩
    · rw [isSpace]
      simp only [Bool.or_eq_false_iff, decide_eq_false_iff_not]
      refine ⟨⟨⟨?_, ?_⟩, ?_⟩, ?_⟩ <;> rintro rfl <;> exact absurd hdigit (by decide)
    · rintro rfl
      exact absurd hdigit (by decide)

/-- The text of a tree starts with a token. -/
theorem Spells.startsValue {node : Node} {cs : List Char} (h : Spells node cs) : StartsValue cs := by
  cases h with
  | null => exact ⟨'n', _, rfl, by decide, by decide⟩
  | bool b => cases b <;> exact ⟨_, _, rfl, by decide, by decide⟩
  | number hproper _ => exact (startsValue_significandText hproper).append _
  | string htext =>
      obtain ⟨behind, rfl, -⟩ := htext.scanString_append
      exact ⟨'"', _, rfl, by decide, by decide⟩
  | noItems _ => exact ⟨'[', _, rfl, by decide, by decide⟩
  | array _ _ => exact ⟨'[', _, rfl, by decide, by decide⟩
  | noMembers _ => exact ⟨'\x7b', _, rfl, by decide, by decide⟩
  | object _ _ => exact ⟨'\x7b', _, rfl, by decide, by decide⟩

theorem SpellsItems.startsValue {items : List Node} {cs : List Char} (h : SpellsItems items cs) :
    StartsValue cs := by
  cases h with
  | last hitem _ => exact hitem.startsValue.append _
  | more hitem _ _ _ => exact hitem.startsValue.append _

/-- A number is read as its literal. -/
theorem parseValue_number {l : Literal} (h : l.Proper) {exponent : List Char}
    (hexponent : Literal.SpellsExponent l.exponent exponent) (supply : Nat) {rest : List Char}
    (hrest : FollowsValue rest) :
    parseValue (supply + 1) (l.significandText ++ (exponent ++ rest)) = (.number l, some rest) := by
  have hscan := scanNumber_append h hexponent hrest.endsNumber
  have hskip := ((startsValue_significandText h).append (exponent ++ rest)).skipSpace_eq
  obtain ⟨c, behind, hc, hstart⟩ := exists_head_significandText h
  rw [hc, List.cons_append] at hscan hskip ⊢
  have hnumber : parseValue (supply + 1) (c :: (behind ++ (exponent ++ rest)))
      = parseNumber (c :: (behind ++ (exponent ++ rest))) := by
    rw [parseValue, hskip]
    split
    case h_1 heq => exact absurd heq (List.cons_ne_nil _ _)
    case h_8 heq =>
      obtain ⟨rfl, rfl⟩ := List.cons.inj heq
      rw [if_pos hstart]
    all_goals
      next heq =>
        rw [(List.cons.inj heq).1] at hstart
        exact absurd hstart (by decide)
  rw [hnumber, parseNumber, hscan]

/-- A string is read from its quotation. -/
theorem parseValue_string {text : Quotation} {cs : List Char} (h : SpellsString text cs) (supply : Nat)
    (rest : List Char) : parseValue (supply + 1) (cs ++ rest) = (.string text, some rest) := by
  obtain ⟨behind, rfl, hscan⟩ := h.scanString_append
  have hparse : parseValue (supply + 1) ('"' :: (behind ++ rest)) = parseString (behind ++ rest) := by
    rw [parseValue]
    rfl
  rw [List.cons_append, hparse, parseString, hscan]

/-! ## Containers -/

/-- An array that is not empty is read item by item. -/
theorem parseValue_array {supply : Nat} {gap cs : List Char} (hgap : White gap) (hcs : StartsValue cs)
    {items : List Node} {ending : ArrayEnd} {rest : Option (List Char)}
    (hitems : parseItems supply cs = (items, ending, rest)) :
    parseValue (supply + 1) ('[' :: (gap ++ cs)) = (.array items ending, rest) := by
  have hskip : skipSpace (gap ++ cs) = cs := by rw [skipSpace_append hgap, hcs.skipSpace_eq]
  obtain ⟨c, behind, rfl, hspace, hbracket⟩ := hcs
  rw [parseValue]
  -- the opening bracket selects the alternative, and the first character behind it is what matters next
  conv_lhs => whnf
  rw [hskip]
  split
  · next heq => exact absurd heq (List.cons_ne_nil _ _)
  · next heq => exact absurd (List.cons.inj heq).1 hbracket
  · rw [hitems]

theorem parseValue_noItems {gap : List Char} (hgap : White gap) (supply : Nat) (rest : List Char) :
    parseValue (supply + 1) ('[' :: (gap ++ ']' :: rest)) = (.array [] .closed, some rest) := by
  have hskip : skipSpace (gap ++ ']' :: rest) = ']' :: rest := by
    rw [skipSpace_append hgap]
    rfl
  rw [parseValue]
  conv_lhs => whnf
  rw [hskip]
  rfl

/-- The last item of an array. -/
theorem parseItems_last {supply : Nat} {cs gap rest : List Char} (hgap : White gap) {item : Node}
    (hitem : parseValue supply cs = (item, some (gap ++ ']' :: rest))) :
    parseItems (supply + 1) cs = ([item], .closed, some rest) := by
  have hskip : skipSpace (gap ++ ']' :: rest) = ']' :: rest := by
    rw [skipSpace_append hgap]
    rfl
  rw [parseItems, hitem]
  simp only [hskip]

/-- An item of an array and the items behind it. -/
theorem parseItems_more {supply : Nat} {cs gap gap' behind : List Char} (hgap : White gap)
    (hgap' : White gap') {item : Node} {items : List Node} {ending : ArrayEnd} {rest : Option (List Char)}
    (hitem : parseValue supply cs = (item, some (gap ++ ',' :: (gap' ++ behind))))
    (hbehind : StartsValue behind) (hitems : parseItems supply behind = (items, ending, rest)) :
    parseItems (supply + 1) cs = (item :: items, ending, rest) := by
  have hcomma : skipSpace (gap ++ ',' :: (gap' ++ behind)) = ',' :: (gap' ++ behind) := by
    rw [skipSpace_append hgap]
    rfl
  have hskip : skipSpace (gap' ++ behind) = behind := by rw [skipSpace_append hgap', hbehind.skipSpace_eq]
  obtain ⟨c, behind, rfl, hspace, hbracket⟩ := hbehind
  rw [parseItems, hitem]
  simp only [hcomma, hskip]
  split
  · next heq => exact absurd heq (List.cons_ne_nil _ _)
  · next heq => exact absurd (List.cons.inj heq).1 hbracket
  · rw [hitems]

/-- An object that is not empty is read member by member. -/
theorem parseValue_object {supply : Nat} {gap cs : List Char} (hgap : White gap)
    {members : List (Quotation × Node)} {ending : ObjectEnd} {rest : Option (List Char)}
    (hmembers : parseMembers supply cs = (members, ending, rest)) :
    parseValue (supply + 1) ('\x7b' :: (gap ++ '"' :: cs)) = (.object members ending, rest) := by
  have hskip : skipSpace (gap ++ '"' :: cs) = '"' :: cs := by
    rw [skipSpace_append hgap]
    rfl
  rw [parseValue]
  conv_lhs => whnf
  rw [hskip]
  simp only [hmembers]

theorem parseValue_noMembers {gap : List Char} (hgap : White gap) (supply : Nat) (rest : List Char) :
    parseValue (supply + 1) ('\x7b' :: (gap ++ '\x7d' :: rest)) = (.object [] .closed, some rest) := by
  have hskip : skipSpace (gap ++ '\x7d' :: rest) = '\x7d' :: rest := by
    rw [skipSpace_append hgap]
    rfl
  rw [parseValue]
  conv_lhs => whnf
  rw [hskip]
  rfl

/-- The last member of an object. -/
theorem parseMembers_last {supply : Nat} {key : Quotation} {name gap cs gap' rest : List Char}
    (hname : ∀ rest, scanString (name ++ rest) = (key, .ok rest)) (hgap : White gap) (hgap' : White gap')
    {value : Node} (hvalue : parseValue supply cs = (value, some (gap' ++ '\x7d' :: rest))) :
    parseMembers (supply + 1) (name ++ (gap ++ ':' :: cs)) = ([(key, value)], .closed, some rest) := by
  have hcolon : skipSpace (gap ++ ':' :: cs) = ':' :: cs := by
    rw [skipSpace_append hgap]
    rfl
  have hbrace : skipSpace (gap' ++ '\x7d' :: rest) = '\x7d' :: rest := by
    rw [skipSpace_append hgap']
    rfl
  rw [parseMembers, hname]
  simp only [hcolon, hvalue, hbrace]

/-- A member of an object and the members behind it. -/
theorem parseMembers_more {supply : Nat} {key : Quotation} {name gap cs gap' gap'' behind : List Char}
    (hname : ∀ rest, scanString (name ++ rest) = (key, .ok rest)) (hgap : White gap) (hgap' : White gap')
    (hgap'' : White gap'') {value : Node} {members : List (Quotation × Node)} {ending : ObjectEnd}
    {rest : Option (List Char)}
    (hvalue : parseValue supply cs = (value, some (gap' ++ ',' :: (gap'' ++ '"' :: behind))))
    (hmembers : parseMembers supply behind = (members, ending, rest)) :
    parseMembers (supply + 1) (name ++ (gap ++ ':' :: cs)) = ((key, value) :: members, ending, rest) := by
  have hcolon : skipSpace (gap ++ ':' :: cs) = ':' :: cs := by
    rw [skipSpace_append hgap]
    rfl
  have hcomma : skipSpace (gap' ++ ',' :: (gap'' ++ '"' :: behind)) = ',' :: (gap'' ++ '"' :: behind) := by
    rw [skipSpace_append hgap']
    rfl
  have hquote : skipSpace (gap'' ++ '"' :: behind) = '"' :: behind := by
    rw [skipSpace_append hgap'']
    rfl
  rw [parseMembers, hname]
  simp only [hcolon, hvalue, hcomma, hquote, hmembers]

/-! ## Whole trees -/

/-- The supply that a text needs is more than none. -/
theorem exists_supply {cs : List Char} (hcs : StartsValue cs) {supply : Nat}
    (hsupply : 2 * cs.length ≤ supply) : ∃ n, supply = n + 1 := by
  have hpos := hcs.length_pos
  exact ⟨supply - 1, by omega⟩

mutual

/-- **The text of a tree is read as the tree**, and what stands behind it is left. The supply lasts because every
step uses up a character. -/
theorem Spells.parseValue_append {node : Node} {cs : List Char} (h : Spells node cs) :
    ∀ {supply : Nat} {rest : List Char}, 2 * cs.length ≤ supply → FollowsValue rest →
      parseValue supply (cs ++ rest) = (node, some rest) := by
  intro supply rest hsupply hrest
  obtain ⟨supply, rfl⟩ := exists_supply h.startsValue hsupply
  -- one case for each way to spell a value; items and members are read by the two lemmas below
  match h with
  | .null => rfl
  | .bool true => rfl
  | .bool false => rfl
  | .number hproper hexponent =>
      rw [List.append_assoc]
      exact parseValue_number hproper hexponent supply hrest
  | .string htext => exact parseValue_string htext supply rest
  | .noItems hgap =>
      rw [List.cons_append, List.append_assoc]
      exact parseValue_noItems hgap supply rest
  | .array hgap hitems =>
      rw [List.length_cons, List.length_append] at hsupply
      rw [List.cons_append, List.append_assoc]
      exact parseValue_array hgap (hitems.startsValue.append rest) (hitems.parseItems_append (by omega))
  | .noMembers hgap =>
      rw [List.cons_append, List.append_assoc]
      exact parseValue_noMembers hgap supply rest
  | .object hgap hmembers =>
      obtain ⟨behind, rfl, hparse⟩ := hmembers.parseMembers_append
      rw [List.length_cons, List.length_append, List.length_cons] at hsupply
      rw [List.cons_append, List.append_assoc, List.cons_append]
      exact parseValue_object hgap (hparse (by omega))

/-- The items of an array are read, and its closing bracket ends them. -/
theorem SpellsItems.parseItems_append {items : List Node} {cs : List Char} (h : SpellsItems items cs) :
    ∀ {supply : Nat} {rest : List Char}, 2 * cs.length ≤ supply →
      parseItems supply (cs ++ rest) = (items, .closed, some rest) := by
  intro supply rest hsupply
  obtain ⟨supply, rfl⟩ := exists_supply h.startsValue hsupply
  match h with
  | .last hitem hgap =>
      rw [List.length_append, List.length_append, List.length_singleton] at hsupply
      simp only [List.append_assoc, List.singleton_append]
      exact parseItems_last hgap (hitem.parseValue_append (by omega)
        (followsValue_append hgap (followsValue_cons (Or.inr (Or.inl rfl)))))
  | .more hitem hgap hgap' hitems =>
      rw [List.length_append, List.length_append, List.length_cons, List.length_append] at hsupply
      simp only [List.append_assoc, List.cons_append]
      exact parseItems_more hgap hgap' (hitem.parseValue_append (by omega)
        (followsValue_append hgap (followsValue_cons (Or.inl rfl)))) (hitems.startsValue.append rest)
        (hitems.parseItems_append (by omega))

/-- The members of an object are read, and its closing brace ends them. The reader starts behind the opening mark
of the first key. -/
theorem SpellsMembers.parseMembers_append {members : List (Quotation × Node)} {cs : List Char}
    (h : SpellsMembers members cs) : ∃ behind, cs = '"' :: behind ∧
      ∀ {supply : Nat} {rest : List Char}, 2 * behind.length ≤ supply →
        parseMembers supply (behind ++ rest) = (members, .closed, some rest) := by
  match h with
  | .last hname hgap hgap' hvalue hgap'' =>
      obtain ⟨name, rfl, hscan⟩ := hname.scanString_append
      refine ⟨_, List.cons_append, ?_⟩
      intro supply rest hsupply
      simp only [List.length_append, List.length_cons, List.length_nil] at hsupply
      -- the opening mark of the key pays for one more step
      obtain ⟨supply, rfl⟩ : ∃ n, supply = n + 2 := ⟨supply - 2, by omega⟩
      simp only [List.append_assoc, List.cons_append, List.nil_append]
      refine parseMembers_last hscan hgap hgap'' ?_
      rw [parseValue_append_gap hgap']
      exact hvalue.parseValue_append (by omega)
        (followsValue_append hgap'' (followsValue_cons (Or.inr (Or.inr rfl))))
  | .more hname hgap hgap' hvalue hgap'' hgap₃ hmembers =>
      obtain ⟨name, rfl, hscan⟩ := hname.scanString_append
      obtain ⟨behind, rfl, hparse⟩ := hmembers.parseMembers_append
      refine ⟨_, List.cons_append, ?_⟩
      intro supply rest hsupply
      simp only [List.length_append, List.length_cons] at hsupply
      obtain ⟨supply, rfl⟩ : ∃ n, supply = n + 2 := ⟨supply - 2, by omega⟩
      simp only [List.append_assoc, List.cons_append]
      refine parseMembers_more hscan hgap hgap'' hgap₃ ?_ (hparse (by omega))
      rw [parseValue_append_gap hgap']
      exact hvalue.parseValue_append (by omega)
        (followsValue_append hgap'' (followsValue_cons (Or.inl rfl)))

end

mutual

/-- A tree that has a text can be passed over: there is nothing wrong in it. -/
theorem Spells.fault?_eq_none {node : Node} {cs : List Char} (h : Spells node cs) : node.fault? = none := by
  match h with
  | .null | .bool _ | .number _ _ | .string _ => rfl
  | .noItems _ | .noMembers _ => rfl
  | .array _ hitems =>
      rw [Node.fault?, hitems.itemsFault?_eq_none]
      rfl
  | .object _ hmembers =>
      rw [Node.fault?, hmembers.membersFault?_eq_none]
      rfl

theorem SpellsItems.itemsFault?_eq_none {items : List Node} {cs : List Char} (h : SpellsItems items cs) :
    itemsFault? items = none := by
  match h with
  | .last hitem _ => rw [itemsFault?, hitem.fault?_eq_none, itemsFault?]; rfl
  | .more hitem _ _ hitems => rw [itemsFault?, hitem.fault?_eq_none, hitems.itemsFault?_eq_none]; rfl

theorem SpellsMembers.membersFault?_eq_none {members : List (Quotation × Node)} {cs : List Char}
    (h : SpellsMembers members cs) : membersFault? members = none := by
  match h with
  | .last _ _ _ hvalue _ => rw [membersFault?, hvalue.fault?_eq_none, membersFault?]; rfl
  | .more _ _ _ hvalue _ _ hmembers =>
      rw [membersFault?, hvalue.fault?_eq_none, hmembers.membersFault?_eq_none]; rfl

end

/-- **A text of a tree is read as the tree**, and nothing is left over. -/
theorem Document.read_of_spellsText {node : Node} {text : String} (h : SpellsText node text) :
    Document.read text = ⟨node, false⟩ := by
  obtain ⟨before, cs, behind, hbefore, hcs, hbehind, htext⟩ := h
  have hfollows : FollowsValue behind := by
    rw [← List.append_nil behind]
    exact followsValue_append hbehind (by simp [FollowsValue])
  have hleft : skipSpace behind = [] := by
    rw [← List.append_nil behind, skipSpace_append hbehind]
    rfl
  have hlength : cs.length ≤ text.toList.length := by
    rw [htext, List.length_append, List.length_append]
    omega
  have hparse : parseValue (2 * text.toList.length + 1 + 1) text.toList = (node, some behind) := by
    generalize text.toList.length = length at hlength
    rw [htext, parseValue_append_gap hbefore]
    exact hcs.parseValue_append (by omega) hfollows
  rw [Document.read, Document.ofChars, hparse]
  simp only [hleft]
  rfl

end Appraisal.Json
