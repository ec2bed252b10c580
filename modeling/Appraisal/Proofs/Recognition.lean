/-
The reader finds nothing wrong exactly in JSON text.

`Appraisal.Proofs.Grammar` says that every text of a tree is read as the tree. Here is the way back: what the
reader takes without giving up is a text of the tree that it returns, and where it gives up, the tree holds a
fault. So a whole text has a tree exactly when the reader finds neither a fault in it nor anything behind it.

The leaves come first, each with what its scanner has consumed; the containers follow by induction on the supply.
-/
import Appraisal.Proofs.Grammar
import Appraisal.Proofs.Success

set_option autoImplicit false

namespace Appraisal.Json

/-! ## White space and words -/

theorem white_append {gap gap' : List Char} (hgap : White gap) (hgap' : White gap') : White (gap ++ gap') :=
  List.forall_mem_append.mpr ⟨hgap, hgap'⟩

theorem exists_gap (cs : List Char) : ∃ gap, White gap ∧ cs = gap ++ skipSpace cs :=
  ⟨cs.takeWhile isSpace, List.all_eq_true.mp List.all_takeWhile, (List.takeWhile_append_dropWhile).symm⟩

theorem eq_append_of_afterWord {word cs rest : List Char} (h : afterWord word cs = .ok rest) :
    cs = word ++ rest := by
  induction word generalizing cs with
  | nil =>
      rw [afterWord] at h
      exact Except.ok.inj h
  | cons w word ih =>
      cases cs with
      | nil => cases h
      | cons c cs =>
          rw [afterWord] at h
          split_ifs at h with hc
          rw [hc, ih h, List.cons_append]

/-! ## Strings -/

/-- The pieces up to a closing mark are spelled by what stands in front of it. -/
theorem exists_spellsPieces {cs : List Char} {parts : List Piece} {rest : List Char}
    (h : pieces cs = (parts, .closed rest)) : ∃ inner, SpellsPieces parts inner ∧ cs = inner ++ '"' :: rest := by
  -- only the alternatives that go on can end with a closing mark
  fun_induction pieces cs generalizing parts with
  | case1 => cases h
  | case2 tail =>
      cases h
      exact ⟨[], .nil, rfl⟩
  | case3 a b c d tail n hunit more ending htail ih =>
      cases h
      obtain ⟨inner, hinner, rfl⟩ := ih htail
      exact ⟨_, .unit hunit hinner, rfl⟩
  | case4 => cases h
  | case5 tail _ =>
      have hend := (Prod.mk.inj h).2
      split at hend <;> cases hend
  | case6 => cases h
  | case7 letter tail _ _ c hletter more ending htail ih =>
      cases h
      obtain ⟨inner, hinner, rfl⟩ := ih htail
      exact ⟨_, .escape hletter hinner, rfl⟩
  | case8 => cases h
  | case9 => cases h
  | case10 c tail hquote _ _ hlone hescape hcontrol more ending htail ih =>
      cases h
      obtain ⟨inner, hinner, rfl⟩ := ih htail
      -- a backslash would have been taken by one of the alternatives above
      have hbackslash : c ≠ '\\' := by
        rintro rfl
        cases hin : inner ++ '"' :: rest with
        | nil => exact hlone rfl hin
        | cons d ds => exact hescape d ds rfl hin
      exact ⟨_, .plain hquote hbackslash (Nat.not_lt.mp hcontrol) hinner, rfl⟩

/-- **A string that is read up to a closing mark is one.** -/
theorem exists_spellsString {cs : List Char} {text : Quotation} {rest : List Char}
    (h : scanString cs = (text, .ok rest)) : ∃ inner, SpellsString text ('"' :: inner) ∧ cs = inner ++ rest := by
  rw [scanString] at h
  cases hpieces : pieces cs with
  | mk parts ending =>
      rw [hpieces] at h
      cases ending with
      | closed tail =>
          obtain ⟨htext, hrest⟩ := Prod.mk.inj h
          cases hrest
          obtain ⟨inner, hinner, rfl⟩ := exists_spellsPieces hpieces
          refine ⟨inner ++ ['"'], ?_, by simp⟩
          rw [← htext, spell_closed]
          exact .quoted hinner
      | cut | control | badEscape | badHex => cases (Prod.mk.inj h).2

/-! ## Numbers -/

theorem eq_append_of_scanDigits {cs ds rest : List Char} (h : scanDigits cs = .ok (ds, rest)) :
    ds ≠ [] ∧ (∀ c ∈ ds, c.isDigit = true) ∧ cs = ds ++ rest := by
  have hdigits : ∀ c ∈ cs.takeWhile Char.isDigit, c.isDigit = true := List.all_eq_true.mp List.all_takeWhile
  have hcs : cs.takeWhile Char.isDigit ++ cs.dropWhile Char.isDigit = cs := List.takeWhile_append_dropWhile
  rw [scanDigits] at h
  cases htake : cs.takeWhile Char.isDigit with
  | nil =>
      rw [htake] at h
      cases h
  | cons d tail =>
      rw [htake] at h hdigits hcs
      cases h
      exact ⟨List.cons_ne_nil _ _, hdigits, hcs.symm⟩

theorem eq_append_of_scanWhole {cs whole rest : List Char} (h : scanWhole cs = .ok (whole, rest)) :
    whole ≠ [] ∧ (∀ c ∈ whole, c.isDigit = true) ∧ (whole.head? = some '0' → whole = ['0'])
      ∧ cs = whole ++ rest := by
  cases cs with
  | nil => cases h
  | cons c cs =>
      rw [scanWhole] at h
      split_ifs at h with hzero hmore hdigit
      · cases h
        subst hzero
        exact ⟨by simp, by simp, fun _ => rfl, rfl⟩
      · cases h
        refine ⟨by simp, ?_, fun hhead => absurd (Option.some.inj hhead) hzero, ?_⟩
        · rw [List.forall_mem_cons]
          exact ⟨hdigit, List.all_eq_true.mp List.all_takeWhile⟩
        · rw [List.cons_append, List.takeWhile_append_dropWhile]

theorem eq_append_of_scanFraction {cs fraction rest : List Char} (h : scanFraction cs = .ok (fraction, rest)) :
    (∀ c ∈ fraction, c.isDigit = true) ∧ cs = (if fraction = [] then [] else ['.'] ++ fraction) ++ rest := by
  rw [scanFraction.eq_def] at h
  split at h
  · next tail =>
      obtain ⟨hne, hdigits, rfl⟩ := eq_append_of_scanDigits h
      exact ⟨hdigits, by rw [if_neg hne]; rfl⟩
  · cases h
    exact ⟨by simp, by simp⟩

/-- The exponent of a literal is one of the ways in which it can be written, and has digits. -/
theorem exists_spellsExponent {cs rest : List Char} {exponent : Option (Bool × List Char)}
    (h : scanExponent cs = .ok (exponent, rest)) :
    ∃ mark, Literal.SpellsExponent exponent mark ∧ cs = mark ++ rest
      ∧ ∀ negative ds, exponent = some (negative, ds) → ds ≠ [] ∧ ∀ c ∈ ds, c.isDigit = true := by
  rw [scanExponent.eq_def] at h
  split at h
  · next letter tail =>
      -- the digits behind the letter and its sign
      have hdigits : ∀ {negative : Bool} {digits : List Char},
          (scanDigits digits).map (fun found => (some (negative, found.1), found.2)) = .ok (exponent, rest) →
          ∃ ds, exponent = some (negative, ds) ∧ ds ≠ [] ∧ (∀ c ∈ ds, c.isDigit = true) ∧ digits = ds ++ rest := by
        intro negative digits hscan
        obtain ⟨⟨ds, left⟩, hfound, ⟨⟩⟩ := map_eq_ok.mp hscan
        exact ⟨ds, rfl, eq_append_of_scanDigits hfound⟩
      split_ifs at h with hletter
      · split at h
        next negative digits hsign =>
          obtain ⟨ds, rfl, hne, hds, rfl⟩ := hdigits h
          have hspec : ∀ negative' ds', some (negative, ds) = some (negative', ds') →
              ds' ≠ [] ∧ ∀ c ∈ ds', c.isDigit = true := by
            rintro _ _ ⟨⟩
            exact ⟨hne, hds⟩
          split at hsign
          · cases hsign
            exact ⟨_, .plus ds hletter, rfl, hspec⟩
          · cases hsign
            exact ⟨_, .minus ds hletter, rfl, hspec⟩
          · cases hsign
            exact ⟨_, .unsigned ds hletter, rfl, hspec⟩
      · cases h
        exact ⟨[], .none, rfl, by simp⟩
  · cases h
    exact ⟨[], .none, rfl, by simp⟩

/-- **A number that is read is one.** -/
theorem exists_spells_number {cs rest : List Char} {l : Literal} (h : scanNumber cs = .ok (l, rest)) :
    ∃ text, Spells (.number l) text ∧ cs = text ++ rest := by
  rw [scanNumber.eq_def] at h
  split at h
  next negative digits hsign =>
    simp only [bind_eq_ok, pure_eq_ok] at h
    obtain ⟨⟨whole, behind⟩, hwhole, ⟨fraction, behind'⟩, hfraction, ⟨exponent, left⟩, hexponent, hl⟩ := h
    cases hl
    obtain ⟨hne, hds, hzero, rfl⟩ := eq_append_of_scanWhole hwhole
    obtain ⟨hfs, rfl⟩ := eq_append_of_scanFraction hfraction
    obtain ⟨mark, hmark, rfl, hspec⟩ := exists_spellsExponent hexponent
    have hproper : Literal.Proper ⟨negative, whole, fraction, exponent⟩ :=
      ⟨hne, hds, hzero, hfs, fun n ds h => (hspec n ds h).1, fun n ds h => (hspec n ds h).2⟩
    refine ⟨_, .number hproper hmark, ?_⟩
    rw [Literal.significandText]
    simp only [List.append_assoc]
    split at hsign <;> cases hsign <;> rfl

/-! ## Trees -/

/-- What the reader makes of a value: a text of the tree in front of what is left, or a tree with a fault. -/
def ValueRead (cs : List Char) (node : Node) : Option (List Char) → Prop
  | some rest => ∃ gap text, White gap ∧ Spells node text ∧ cs = gap ++ (text ++ rest)
  | none => node.fault? ≠ none

/-- What the reader makes of items. -/
def ItemsRead (cs : List Char) (items : List Node) (ending : ArrayEnd) : Option (List Char) → Prop
  | some rest => ending = .closed ∧ ∃ gap text, White gap ∧ SpellsItems items text ∧ cs = gap ++ (text ++ rest)
  | none => (itemsFault? items).or ending.fault? ≠ none

/-- What the reader makes of members, from behind the opening mark of the first key on. -/
def MembersRead (cs : List Char) (members : List (Quotation × Node)) (ending : ObjectEnd) :
    Option (List Char) → Prop
  | some rest => ending = .closed ∧ ∃ text, SpellsMembers members ('"' :: text) ∧ cs = text ++ rest
  | none => (membersFault? members).or ending.fault? ≠ none

theorem valueRead_broken (cs : List Char) (wreck : Wreck) : ValueRead cs (.broken wreck) none :=
  Option.some_ne_none _

theorem valueRead_word {word : List Char} {node : Node} {wreck : Fault → Wreck} {gap cs : List Char} {c : Char}
    (hgap : White gap) (hnode : Spells node (c :: word)) :
    ValueRead (gap ++ c :: cs) (parseWord word node wreck cs).1 (parseWord word node wreck cs).2 := by
  rw [parseWord]
  cases hword : afterWord word cs with
  | error fault => exact valueRead_broken _ _
  | ok rest => exact ⟨gap, _, hgap, hnode, by rw [eq_append_of_afterWord hword]; rfl⟩

theorem valueRead_number {gap cs : List Char} (hgap : White gap) :
    ValueRead (gap ++ cs) (parseNumber cs).1 (parseNumber cs).2 := by
  rw [parseNumber]
  cases hnumber : scanNumber cs with
  | error fault => exact valueRead_broken _ _
  | ok found =>
      obtain ⟨l, rest⟩ := found
      obtain ⟨text, htext, rfl⟩ := exists_spells_number hnumber
      exact ⟨gap, text, hgap, htext, rfl⟩

theorem valueRead_string {gap cs : List Char} (hgap : White gap) :
    ValueRead (gap ++ '"' :: cs) (parseString cs).1 (parseString cs).2 := by
  rw [parseString.eq_def]
  split
  · next text rest hscan =>
      obtain ⟨inner, hinner, rfl⟩ := exists_spellsString hscan
      exact ⟨gap, _, hgap, .string hinner, rfl⟩
  · exact valueRead_broken _ _
  · exact valueRead_broken _ _

/-- An array that is read from its items. -/
theorem valueRead_array {gap gap' cs : List Char} (hgap : White gap) (hgap' : White gap') {items : List Node}
    {ending : ArrayEnd} {rest : Option (List Char)} (h : ItemsRead cs items ending rest) :
    ValueRead (gap ++ '[' :: (gap' ++ cs)) (.array items ending) rest := by
  cases rest with
  | none => exact h
  | some rest =>
      obtain ⟨rfl, gap'', text, hgap'', htext, rfl⟩ := h
      exact ⟨gap, _, hgap, .array (white_append hgap' hgap'') htext, by simp⟩

/-- An object that is read from its members. -/
theorem valueRead_object {gap gap' cs : List Char} (hgap : White gap) (hgap' : White gap')
    {members : List (Quotation × Node)} {ending : ObjectEnd} {rest : Option (List Char)}
    (h : MembersRead cs members ending rest) :
    ValueRead (gap ++ '\x7b' :: (gap' ++ '"' :: cs)) (.object members ending) rest := by
  cases rest with
  | none => exact h
  | some rest =>
      obtain ⟨rfl, text, htext, rfl⟩ := h
      exact ⟨gap, _, hgap, .object hgap' htext, by simp⟩

/-- An item and a comma in front of items that are read. -/
theorem itemsRead_more {gap text gap' gap'' cs : List Char} {item : Node} (hgap : White gap)
    (htext : Spells item text) (hgap' : White gap') (hgap'' : White gap'') {items : List Node} {ending : ArrayEnd}
    {rest : Option (List Char)} (h : ItemsRead cs items ending rest) :
    ItemsRead (gap ++ (text ++ (gap' ++ ',' :: (gap'' ++ cs)))) (item :: items) ending rest := by
  cases rest with
  | none =>
      show (itemsFault? (item :: items)).or _ ≠ none
      rw [itemsFault?, htext.fault?_eq_none]
      exact h
  | some rest =>
      obtain ⟨hclosed, gap₃, inner, hgap₃, hinner, rfl⟩ := h
      exact ⟨hclosed, gap, _, hgap, .more htext hgap' (white_append hgap'' hgap₃) hinner, by simp⟩

/-- A member and a comma in front of members that are read. -/
theorem membersRead_more {name gap gap' text gap'' gap₃ cs : List Char} {key : Quotation} {value : Node}
    (hname : SpellsString key ('"' :: name)) (hgap : White gap) (hgap' : White gap') (htext : Spells value text)
    (hgap'' : White gap'') (hgap₃ : White gap₃) {members : List (Quotation × Node)} {ending : ObjectEnd}
    {rest : Option (List Char)} (h : MembersRead cs members ending rest) :
    MembersRead (name ++ (gap ++ ':' :: (gap' ++ (text ++ (gap'' ++ ',' :: (gap₃ ++ '"' :: cs))))))
      ((key, value) :: members) ending rest := by
  cases rest with
  | none =>
      show (membersFault? ((key, value) :: members)).or _ ≠ none
      rw [membersFault?, htext.fault?_eq_none]
      exact h
  | some rest =>
      obtain ⟨hclosed, inner, hinner, rfl⟩ := h
      exact ⟨hclosed, _, .more hname hgap hgap' htext hgap'' hgap₃ hinner, by simp⟩

/-! ## The reader, one step at a time -/

section Step

variable {supply : Nat}

theorem valueRead_step
    (hitems : ∀ cs, ItemsRead cs (parseItems supply cs).1 (parseItems supply cs).2.1 (parseItems supply cs).2.2)
    (hmembers : ∀ cs, MembersRead cs (parseMembers supply cs).1 (parseMembers supply cs).2.1
      (parseMembers supply cs).2.2) (cs : List Char) :
    ValueRead cs (parseValue (supply + 1) cs).1 (parseValue (supply + 1) cs).2 := by
  obtain ⟨gap, hgap, hcs⟩ := exists_gap cs
  rw [parseValue]
  generalize skipSpace cs = tokens at hcs
  subst hcs
  -- the reader looks at the first character that is no blank, and so do the cases
  split
  · exact valueRead_broken _ _
  · exact valueRead_word hgap .null
  · exact valueRead_word hgap (.bool true)
  · exact valueRead_word hgap (.bool false)
  · exact valueRead_string hgap
  · next behind =>
      obtain ⟨gap', hgap', hbehind⟩ := exists_gap behind
      generalize skipSpace behind = tokens at hbehind
      subst hbehind
      split
      · exact (Option.some_ne_none _ : (Node.array [] .cut).fault? ≠ none)
      · exact ⟨gap, _, hgap, .noItems hgap', by simp⟩
      · exact valueRead_array hgap hgap' (hitems tokens)
  · next behind =>
      obtain ⟨gap', hgap', hbehind⟩ := exists_gap behind
      generalize skipSpace behind = tokens at hbehind
      subst hbehind
      split
      · exact (Option.some_ne_none _ : (Node.object [] .cut).fault? ≠ none)
      · exact ⟨gap, _, hgap, .noMembers hgap', by simp⟩
      · exact valueRead_object hgap hgap' (hmembers _)
      · exact (Option.some_ne_none _ : (Node.object [] .notAKey).fault? ≠ none)
  · split_ifs with hc
    · exact valueRead_number hgap
    · exact valueRead_broken _ _

/-- An item that is read, and what the reader makes of the text behind it. -/
theorem itemsRead_step
    (hvalue : ∀ cs, ValueRead cs (parseValue supply cs).1 (parseValue supply cs).2)
    (hitems : ∀ cs, ItemsRead cs (parseItems supply cs).1 (parseItems supply cs).2.1 (parseItems supply cs).2.2)
    (cs : List Char) :
    ItemsRead cs (parseItems (supply + 1) cs).1 (parseItems (supply + 1) cs).2.1
      (parseItems (supply + 1) cs).2.2 := by
  have hread := hvalue cs
  rw [parseItems]
  split
  · next item hparse =>
      rw [hparse] at hread
      have hfault : item.fault? ≠ none := hread
      show (itemsFault? [item]).or _ ≠ none
      simp [itemsFault?, hfault]
  · next item rest hparse =>
      rw [hparse] at hread
      obtain ⟨gap, text, hgap, htext, rfl⟩ := hread
      obtain ⟨gap', hgap', hrest⟩ := exists_gap rest
      generalize skipSpace rest = tokens at hrest
      subst hrest
      -- an item that was read is sound, so that only the end of the array can be wrong
      have hend : ∀ {ending : ArrayEnd}, ending.fault? ≠ none →
          ItemsRead (gap ++ (text ++ (gap' ++ tokens))) [item] ending none := by
        intro ending hending
        show (itemsFault? [item]).or _ ≠ none
        simpa [itemsFault?, htext.fault?_eq_none] using hending
      split
      · exact hend (Option.some_ne_none _)
      · exact ⟨rfl, gap, _, hgap, .last htext hgap', by simp⟩
      · next behind =>
          obtain ⟨gap'', hgap'', hbehind⟩ := exists_gap behind
          generalize skipSpace behind = tokens at hbehind
          subst hbehind
          split
          · exact hend (Option.some_ne_none _)
          · exact hend (Option.some_ne_none _)
          · exact itemsRead_more hgap htext hgap' hgap'' (hitems tokens)
      · exact hend (Option.some_ne_none _)

/-- A member that is read, and what the reader makes of the text behind it. -/
theorem membersRead_step
    (hvalue : ∀ cs, ValueRead cs (parseValue supply cs).1 (parseValue supply cs).2)
    (hmembers : ∀ cs, MembersRead cs (parseMembers supply cs).1 (parseMembers supply cs).2.1
      (parseMembers supply cs).2.2) (cs : List Char) :
    MembersRead cs (parseMembers (supply + 1) cs).1 (parseMembers (supply + 1) cs).2.1
      (parseMembers (supply + 1) cs).2.2 := by
  -- a member whose value is wrong
  have hbad : ∀ {key : Quotation} {value : Node}, value.fault? ≠ none →
      MembersRead cs [(key, value)] .closed none := by
    intro key value hfault
    show (membersFault? [(key, value)]).or _ ≠ none
    simp [membersFault?, hfault]
  rw [parseMembers]
  split
  · exact hbad (Option.some_ne_none _)
  · next key behind hscan =>
      obtain ⟨name, hname, rfl⟩ := exists_spellsString hscan
      obtain ⟨gap, hgap, hbehind⟩ := exists_gap behind
      generalize skipSpace behind = tokens at hbehind
      subst hbehind
      split
      · exact hbad (Option.some_ne_none _)
      · next behind =>
          have hread := hvalue behind
          split
          · next value hparse =>
              rw [hparse] at hread
              exact hbad hread
          · next value rest hparse =>
              rw [hparse] at hread
              obtain ⟨gap', text, hgap', htext, rfl⟩ := hread
              obtain ⟨gap'', hgap'', hrest⟩ := exists_gap rest
              generalize skipSpace rest = tokens at hrest
              subst hrest
              -- a member that was read is sound, so that only the end of the object can be wrong
              have hend : ∀ {ending : ObjectEnd}, ending.fault? ≠ none →
                  MembersRead (name ++ (gap ++ ':' :: (gap' ++ (text ++ (gap'' ++ tokens))))) [(key, value)] ending
                    none := by
                intro ending hending
                show (membersFault? [(key, value)]).or _ ≠ none
                simpa [membersFault?, htext.fault?_eq_none] using hending
              split
              · exact hend (Option.some_ne_none _)
              · exact ⟨rfl, _, .last hname hgap hgap' htext hgap'', by simp⟩
              · next behind =>
                  obtain ⟨gap₃, hgap₃, hbehind⟩ := exists_gap behind
                  generalize skipSpace behind = tokens at hbehind
                  subst hbehind
                  split
                  · exact hend (Option.some_ne_none _)
                  · exact hend (Option.some_ne_none _)
                  · exact membersRead_more hname hgap hgap' htext hgap'' hgap₃ (hmembers _)
                  · exact hend (Option.some_ne_none _)
              · exact hend (Option.some_ne_none _)
      · exact hbad (Option.some_ne_none _)

end Step

/-- **Whatever the supply, what the reader takes is a text, and where it gives up there is a fault.** -/
theorem parse_read (supply : Nat) :
    (∀ cs, ValueRead cs (parseValue supply cs).1 (parseValue supply cs).2)
      ∧ (∀ cs, ItemsRead cs (parseItems supply cs).1 (parseItems supply cs).2.1 (parseItems supply cs).2.2)
      ∧ ∀ cs, MembersRead cs (parseMembers supply cs).1 (parseMembers supply cs).2.1
          (parseMembers supply cs).2.2 := by
  induction supply with
  | zero =>
      refine ⟨fun cs => ?_, fun cs => ?_, fun cs => ?_⟩
      · rw [parseValue_zero]
        exact valueRead_broken _ _
      · rw [parseItems_zero]
        exact (Option.some_ne_none _ : (itemsFault? []).or ArrayEnd.noComma.fault? ≠ none)
      · rw [parseMembers_zero]
        exact (Option.some_ne_none _ : (membersFault? []).or ObjectEnd.noComma.fault? ≠ none)
  | succ supply ih =>
      obtain ⟨hvalue, hitems, hmembers⟩ := ih
      exact ⟨valueRead_step hitems hmembers, itemsRead_step hvalue hitems, membersRead_step hvalue hmembers⟩

/-! ## Whole texts -/

/-- **The reader finds nothing wrong exactly in a JSON text**, and what it returns is the tree of that text. -/
theorem Document.read_eq_iff {node : Node} {text : String} :
    SpellsText node text ↔ Document.read text = ⟨node, false⟩ ∧ node.fault? = none := by
  constructor
  · intro h
    have ⟨_, _, _, _, hnode, _⟩ := h
    exact ⟨Document.read_of_spellsText h, hnode.fault?_eq_none⟩
  · rintro ⟨hread, hfault⟩
    have hvalue := (parse_read (2 * text.toList.length + 2)).1 text.toList
    rw [Document.read, Document.ofChars] at hread
    split at hread
    · next root hparse =>
        rw [hparse] at hvalue
        cases hread
        exact absurd hfault hvalue
    · next root rest hparse =>
        rw [hparse] at hvalue
        obtain ⟨before, cs, hbefore, hcs, htext⟩ := hvalue
        -- nothing but blanks may be left behind the value
        obtain ⟨behind, hbehind, hrest⟩ := exists_gap rest
        obtain ⟨hroot, hmore⟩ := Document.mk.inj hread
        have hnone : skipSpace rest = [] := by simpa using hmore
        rw [hnone, List.append_nil] at hrest
        subst hroot hrest
        exact ⟨before, cs, rest, hbefore, hcs, hbehind, htext⟩

end Appraisal.Json
