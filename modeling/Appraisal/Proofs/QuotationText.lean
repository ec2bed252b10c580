/-
What is written between quotation marks, how it is read, and that the printer writes it.

A character can be written as itself, as a short escape or by number, and each of the three forms is one piece for
the reader (`SpellsPieces`). The pieces of a string are read up to its closing mark, whatever stands behind it, and
spell the text or a fault (`SpellsString.scanString_append`).

The printer chooses one of the three forms for every character. What it writes for a text spells that text,
whatever its characters are (`spellsString_stringText`).
-/
import Mathlib.Tactic.SplitIfs
import Appraisal.Json.Printer
import Appraisal.Json.Reader

set_option autoImplicit false

namespace Appraisal.Json

/-! ## What can be written -/

/-- The characters by which the pieces of a string are written. -/
inductive SpellsPieces : List Piece → List Char → Prop
  | nil : SpellsPieces [] []
  | plain {c : Char} {parts : List Piece} {cs : List Char} : c ≠ '"' → c ≠ '\\' → 32 ≤ c.toNat →
      SpellsPieces parts cs → SpellsPieces (.char c :: parts) (c :: cs)
  | escape {letter c : Char} {parts : List Piece} {cs : List Char} : shortEscape? letter = some c →
      SpellsPieces parts cs → SpellsPieces (.char c :: parts) ('\\' :: letter :: cs)
  | unit {a b c d : Char} {n : Nat} {parts : List Piece} {cs : List Char} : hexUnit? a b c d = some n →
      SpellsPieces parts cs → SpellsPieces (.unit n :: parts) ('\\' :: 'u' :: a :: b :: c :: d :: cs)

/-- A string with its quotation marks: what its pieces spell, be it characters or a fault. -/
inductive SpellsString : Quotation → List Char → Prop
  | quoted {parts : List Piece} {cs : List Char} : SpellsPieces parts cs →
      SpellsString ((spell (.closed []) parts).map String.ofList) ('"' :: (cs ++ ['"']))

/-! ## Reading -/

/-- A short escape is one piece. -/
theorem pieces_shortEscape {letter c : Char} (hletter : shortEscape? letter = some c)
    (rest : List Char) :
    pieces ('\\' :: letter :: rest) = (.char c :: (pieces rest).1, (pieces rest).2) := by
  have hu : letter ≠ 'u' := by
    rintro rfl
    cases hletter
  rw [pieces.eq_def]
  simp [hu, hletter]

/-- A character that needs no escape is one piece. -/
theorem pieces_plain {c : Char} (hquote : c ≠ '"') (hbackslash : c ≠ '\\') (hcontrol : 32 ≤ c.toNat)
    (rest : List Char) : pieces (c :: rest) = (.char c :: (pieces rest).1, (pieces rest).2) := by
  rw [pieces.eq_def]
  simp [hbackslash, Nat.not_lt.mpr hcontrol]

/-- The pieces of a string end at its closing mark. -/
theorem SpellsPieces.pieces_append {parts : List Piece} {cs : List Char} (h : SpellsPieces parts cs)
    (rest : List Char) : pieces (cs ++ '"' :: rest) = (parts, .closed rest) := by
  induction h with
  | nil => exact pieces_mark rest
  | plain hquote hbackslash hcontrol _ ih =>
      rw [List.cons_append, pieces_plain hquote hbackslash hcontrol, ih]
  | escape hletter _ ih => rw [List.cons_append, List.cons_append, pieces_shortEscape hletter, ih]
  | unit hunit _ ih =>
      simp only [List.cons_append]
      rw [pieces, hunit]
      simp only [ih]

/-- What pieces spell does not depend on what stands behind the closing mark. The recursion follows that of `spell`,
which looks at two pieces at once where the first one may be half of a pair. -/
theorem spell_closed (rest : List Char) : ∀ parts, spell (.closed rest) parts = spell (.closed []) parts
  | [] => rfl
  | .char c :: parts => by rw [spell_char, spell_char, spell_closed rest parts]
  | [.unit n] => by simp only [spell, StringEnd.faultAfterHalf, StringEnd.fault?]
  | .unit n :: .char c :: parts => by simp only [spell, spell_closed rest parts]
  | .unit n :: .unit m :: parts => by
      have htail := spell_closed rest (.unit m :: parts)
      simp only [spell] at htail ⊢
      rw [spell_closed rest parts, htail]

/-- **A string is read up to its closing mark**, whatever stands behind it. -/
theorem SpellsString.scanString_append {text : Quotation} {cs : List Char} (h : SpellsString text cs) :
    ∃ behind, cs = '"' :: behind ∧ ∀ rest, scanString (behind ++ rest) = (text, .ok rest) := by
  rcases h with ⟨hparts⟩
  refine ⟨_, rfl, fun rest => ?_⟩
  rw [List.append_assoc, List.singleton_append, scanString, hparts.pieces_append]
  simp only [spell_closed rest]

/-! ## Printing -/

/-- The piece stands for the character alone: it is not half of a pair. -/
def Piece.Spells (piece : Piece) (c : Char) : Prop :=
  ∀ ending parts, spell ending (piece :: parts) = (spell ending parts).map (c :: ·)

theorem Piece.spells_char (c : Char) : (Piece.char c).Spells c :=
  fun ending parts => spell_char ending c parts

/-- A control character is no surrogate. -/
theorem Piece.spells_unit {c : Char} (hc : c.toNat < 32) : (Piece.unit c.toNat).Spells c := by
  intro ending parts
  rw [spell.eq_def]
  simp only
  rw [if_neg (by omega), if_neg (by omega), Char.ofNat_toNat]

/-- A hexadecimal digit is read as the number it was written for. -/
theorem hexValue?_hexDigit {n : Nat} (hn : n < 16) : hexValue? (hexDigit n) = some n := by
  have h : ∀ n : Fin 16, hexValue? (hexDigit n) = some n.val := by decide
  exact h ⟨n, hn⟩

/-- A number below `256` is read from four hexadecimal digits. -/
theorem hexUnit?_hexDigit {n : Nat} (hn : n < 256) :
    hexUnit? '0' '0' (hexDigit (n / 16)) (hexDigit (n % 16)) = some n := by
  have hhigh : n / 16 < 16 := by omega
  have hlow : n % 16 < 16 := by omega
  have hzero : hexValue? '0' = some 0 := by decide
  simp only [hexUnit?, hzero, hexValue?_hexDigit hhigh, hexValue?_hexDigit hlow, Option.bind_eq_bind,
    Option.bind_some, Option.pure_def, Option.some.injEq]
  omega

/-- **A printed character is one piece**, and the piece stands for the character. -/
theorem exists_piece_escapedChar (c : Char) :
    ∃ piece : Piece, piece.Spells c
      ∧ ∀ parts cs, SpellsPieces parts cs → SpellsPieces (piece :: parts) (escapedChar c ++ cs) := by
  rw [escapedChar]
  split_ifs with hquote hbackslash hbackspace htab hfeed hform hreturn hcontrol
  · subst hquote
    exact ⟨_, Piece.spells_char _, fun _ _ => .escape rfl⟩
  · subst hbackslash
    exact ⟨_, Piece.spells_char _, fun _ _ => .escape rfl⟩
  · subst hbackspace
    exact ⟨_, Piece.spells_char _, fun _ _ => .escape rfl⟩
  · subst htab
    exact ⟨_, Piece.spells_char _, fun _ _ => .escape rfl⟩
  · subst hfeed
    exact ⟨_, Piece.spells_char _, fun _ _ => .escape rfl⟩
  · subst hform
    exact ⟨_, Piece.spells_char _, fun _ _ => .escape rfl⟩
  · subst hreturn
    exact ⟨_, Piece.spells_char _, fun _ _ => .escape rfl⟩
  · exact ⟨_, Piece.spells_unit hcontrol, fun _ _ => .unit (hexUnit?_hexDigit (by omega))⟩
  · exact ⟨_, Piece.spells_char c, fun _ _ => .plain hquote hbackslash (Nat.not_lt.mp hcontrol)⟩

/-- What is printed between quotation marks spells the characters that were to be printed. -/
theorem exists_pieces_flatMap (cs : List Char) :
    ∃ parts, SpellsPieces parts (cs.flatMap escapedChar) ∧ spell (.closed []) parts = .ok cs := by
  induction cs with
  | nil => exact ⟨[], .nil, rfl⟩
  | cons c cs ih =>
      obtain ⟨parts, hparts, hspell⟩ := ih
      obtain ⟨piece, hpiece, hprinted⟩ := exists_piece_escapedChar c
      refine ⟨piece :: parts, ?_, ?_⟩
      · rw [List.flatMap_cons]
        exact hprinted parts _ hparts
      · rw [hpiece, hspell]
        rfl

/-- **The printed form of a text spells the text.** -/
theorem spellsString_stringText (s : String) : SpellsString (.ok s) (stringText s) := by
  obtain ⟨parts, hparts, hspell⟩ := exists_pieces_flatMap s.toList
  have hstring := SpellsString.quoted hparts
  rwa [hspell, Except.map, String.ofList_toList] at hstring

end Appraisal.Json
