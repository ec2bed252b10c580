/-
The texts of numbers, and that the scanner of number literals reads back what the printer writes.

A literal that keeps the rules of JSON (`Literal.Proper`: digits where digits are due, no leading zero) has
one text in the form that the printer uses. Scanning that text gives the literal back, whatever stands
behind it, as long as that does not go on with the number (`scanNumber_text`).

Every natural number and every finite double is written as the text of a proper literal, in whichever
style its digits are laid out. The literal of a natural below `2 ^ 64` has that natural for its value.
-/
import Mathlib.Data.List.Basic
import Mathlib.Tactic.Ring
import Appraisal.Json.Printer
import Appraisal.Json.Reader

set_option autoImplicit false

namespace Appraisal

open Json

/-! ## Proper literals and their texts -/

namespace Literal

/-- The exponent as it is written, always with a sign. -/
def exponentText : Option (Bool × List Char) → List Char
  | none => []
  | some (negative, ds) => ['e', if negative then '-' else '+'] ++ ds

/-- What can be written for an exponent: either letter stands before it, and a plus may be left out. -/
inductive SpellsExponent : Option (Bool × List Char) → List Char → Prop
  | none : SpellsExponent none []
  | unsigned {letter : Char} (ds : List Char) (hletter : letter = 'e' ∨ letter = 'E') :
      SpellsExponent (some (false, ds)) (letter :: ds)
  | plus {letter : Char} (ds : List Char) (hletter : letter = 'e' ∨ letter = 'E') :
      SpellsExponent (some (false, ds)) (letter :: '+' :: ds)
  | minus {letter : Char} (ds : List Char) (hletter : letter = 'e' ∨ letter = 'E') :
      SpellsExponent (some (true, ds)) (letter :: '-' :: ds)

theorem spellsExponent_exponentText (exponent : Option (Bool × List Char)) :
    SpellsExponent exponent (exponentText exponent) := by
  rcases exponent with _ | ⟨_ | _, ds⟩
  · exact .none
  · exact .plus ds (Or.inl rfl)
  · exact .minus ds (Or.inl rfl)

/-- The text of a literal up to its exponent. -/
def significandText (l : Literal) : List Char :=
  Decimal.signText l.negative ++ l.whole ++ (if l.fraction = [] then [] else ['.'] ++ l.fraction)

/-- The text of a literal. -/
def text (l : Literal) : List Char :=
  Decimal.signText l.negative ++ l.whole ++ (if l.fraction = [] then [] else ['.'] ++ l.fraction)
    ++ exponentText l.exponent

/-- A literal that JSON allows. -/
structure Proper (l : Literal) : Prop where
  whole_ne_nil : l.whole ≠ []
  whole_digits : ∀ c ∈ l.whole, c.isDigit = true
  no_leading_zero : l.whole.head? = some '0' → l.whole = ['0']
  fraction_digits : ∀ c ∈ l.fraction, c.isDigit = true
  exponent_ne_nil : ∀ negative ds, l.exponent = some (negative, ds) → ds ≠ []
  exponent_digits : ∀ negative ds, l.exponent = some (negative, ds) → ∀ c ∈ ds, c.isDigit = true

end Literal

/-- Does the text behind a number leave the number as it is? -/
def EndsNumber (rest : List Char) : Prop :=
  ∀ c ∈ rest.head?, c.isDigit = false ∧ c ≠ '.' ∧ c ≠ 'e' ∧ c ≠ 'E'

/-! ## Scanning -/

namespace Json

/-- Digits are split from what stands behind them at the first character that is none. -/
theorem span_digits {ds rest : List Char} (hds : ∀ c ∈ ds, c.isDigit = true)
    (hrest : ∀ c ∈ rest.head?, c.isDigit = false) :
    (ds ++ rest).takeWhile Char.isDigit = ds ∧ (ds ++ rest).dropWhile Char.isDigit = rest := by
  rw [List.takeWhile_append_of_pos hds, List.dropWhile_append_of_pos hds]
  cases rest with
  | nil => simp
  | cons c rest =>
      have hc : ¬ c.isDigit = true := by simp [hrest c rfl]
      rw [List.takeWhile_cons_of_neg hc, List.dropWhile_cons_of_neg hc, List.append_nil]
      exact ⟨rfl, rfl⟩

theorem scanDigits_append {ds rest : List Char} (hne : ds ≠ []) (hds : ∀ c ∈ ds, c.isDigit = true)
    (hrest : ∀ c ∈ rest.head?, c.isDigit = false) : scanDigits (ds ++ rest) = .ok (ds, rest) := by
  obtain ⟨htake, hdrop⟩ := span_digits hds hrest
  rw [scanDigits, htake, hdrop]
  cases ds with
  | nil => exact absurd rfl hne
  | cons d ds => rfl

theorem scanWhole_append {l : Literal} (h : l.Proper) {rest : List Char}
    (hrest : ∀ c ∈ rest.head?, c.isDigit = false) :
    scanWhole (l.whole ++ rest) = .ok (l.whole, rest) := by
  have hne := h.whole_ne_nil
  have hzero := h.no_leading_zero
  have hds := h.whole_digits
  generalize l.whole = whole at hne hzero hds
  cases whole with
  | nil => exact absurd rfl hne
  | cons d ds =>
      rw [List.cons_append, scanWhole]
      by_cases hd : d = '0'
      · subst hd
        obtain rfl : ds = [] := (List.cons.inj (hzero rfl)).2
        have hnext : (rest.head?.map Char.isDigit).getD false = false := by
          cases rest with
          | nil => rfl
          | cons c rest => exact hrest c rfl
        rw [if_pos rfl, List.nil_append, hnext]
        rfl
      · obtain ⟨htake, hdrop⟩ := span_digits (fun c hc => hds c (List.mem_cons_of_mem d hc)) hrest
        rw [if_neg hd, if_pos (hds d List.mem_cons_self), htake, hdrop]

theorem scanFraction_append {fraction rest : List Char} (hds : ∀ c ∈ fraction, c.isDigit = true)
    (hrest : ∀ c ∈ rest.head?, c.isDigit = false ∧ c ≠ '.') :
    scanFraction ((if fraction = [] then [] else ['.'] ++ fraction) ++ rest) = .ok (fraction, rest) := by
  by_cases hne : fraction = []
  · subst hne
    rw [if_pos rfl, List.nil_append, scanFraction.eq_def]
    split
    · exact absurd rfl (hrest '.' rfl).2
    · rfl
  · rw [if_neg hne]
    exact scanDigits_append hne hds fun c hc => (hrest c hc).1

theorem scanExponent_append {l : Literal} (h : l.Proper) {mark rest : List Char}
    (hmark : Literal.SpellsExponent l.exponent mark) (hrest : EndsNumber rest) :
    scanExponent (mark ++ rest) = .ok (l.exponent, rest) := by
  have hdigit : ∀ c ∈ rest.head?, c.isDigit = false := fun c hc => (hrest c hc).1
  have hne := h.exponent_ne_nil
  have hds := h.exponent_digits
  generalize l.exponent = exponent at hmark hne hds
  -- without a letter there is no exponent; behind a letter there may be a sign
  cases hmark with
  | none =>
      cases rest with
      | nil => rfl
      | cons c rest =>
          obtain ⟨_, _, hsmall, hlarge⟩ := hrest c rfl
          rw [List.nil_append, scanExponent.eq_def]
          simp only [hsmall, hlarge, or_self, if_false]
  | @unsigned letter ds hletter =>
      have hscan := scanDigits_append (hne false ds rfl) (hds false ds rfl) hdigit
      -- the first digit is not taken for a sign
      obtain ⟨d, ds, rfl⟩ := List.exists_cons_of_ne_nil (hne false ds rfl)
      have hd : d.isDigit = true := hds false _ rfl d List.mem_cons_self
      have hplus : d ≠ '+' := by rintro rfl; exact absurd hd (by decide)
      have hminus : d ≠ '-' := by rintro rfl; exact absurd hd (by decide)
      rw [List.cons_append] at hscan
      simp [scanExponent, hletter, hscan, hplus, hminus, Except.map]
  | @plus letter ds hletter =>
      have hscan := scanDigits_append (hne false ds rfl) (hds false ds rfl) hdigit
      simp [scanExponent, hletter, hscan, Except.map]
  | @minus letter ds hletter =>
      have hscan := scanDigits_append (hne true ds rfl) (hds true ds rfl) hdigit
      simp [scanExponent, hletter, hscan, Except.map]

/-- **Scanning a number gives its literal**, however the exponent is written, and the text behind it. -/
theorem scanNumber_append {l : Literal} (h : l.Proper) {mark rest : List Char}
    (hmark : Literal.SpellsExponent l.exponent mark) (hrest : EndsNumber rest) :
    scanNumber (l.significandText ++ (mark ++ rest)) = .ok (l, rest) := by
  -- what stands behind the fraction, and what stands behind the whole part
  have hexponent : ∀ c ∈ (mark ++ rest).head?, c.isDigit = false ∧ c ≠ '.' := by
    have hscan := hmark
    generalize l.exponent = exponent at hscan
    rcases hscan with _ | ⟨_, rfl | rfl⟩ | ⟨_, rfl | rfl⟩ | ⟨_, rfl | rfl⟩
    · exact fun c hc => ⟨(hrest c hc).1, (hrest c hc).2.1⟩
    all_goals rintro c ⟨⟩; decide
  have hfraction : ∀ c ∈ ((if l.fraction = [] then [] else ['.'] ++ l.fraction)
      ++ (mark ++ rest)).head?, c.isDigit = false := by
    split
    · exact fun c hc => (hexponent c hc).1
    · rintro c ⟨⟩; decide
  rw [Literal.significandText]
  simp only [List.append_assoc]
  cases hnegative : l.negative with
  | true =>
      rw [Decimal.signText, if_pos rfl, List.singleton_append, scanNumber.eq_1]
      simp only [scanWhole_append h hfraction, scanFraction_append h.fraction_digits hexponent,
        scanExponent_append h hmark hrest, bind, Except.bind, pure, Except.pure, ← hnegative]
  | false =>
      -- without a sign the text starts with a digit
      have hsign : ∀ behind, l.whole ++ ((if l.fraction = [] then [] else ['.'] ++ l.fraction)
          ++ (mark ++ rest)) ≠ '-' :: behind := by
        intro behind heq
        obtain ⟨d, ds, hwhole⟩ := List.exists_cons_of_ne_nil h.whole_ne_nil
        rw [hwhole, List.cons_append] at heq
        have hdigit := h.whole_digits d (hwhole ▸ List.mem_cons_self)
        rw [(List.cons.inj heq).1] at hdigit
        exact absurd hdigit (by decide)
      rw [Decimal.signText, if_neg Bool.false_ne_true, List.nil_append, scanNumber.eq_2 _ hsign]
      simp only [scanWhole_append h hfraction, scanFraction_append h.fraction_digits hexponent,
        scanExponent_append h hmark hrest, bind, Except.bind, pure, Except.pure, ← hnegative]

/-- Scanning the text of a number gives the number back, and the text behind it. -/
theorem scanNumber_text {l : Literal} (h : l.Proper) {rest : List Char} (hrest : EndsNumber rest) :
    scanNumber (l.text ++ rest) = .ok (l, rest) := by
  have htext : l.text = l.significandText ++ Literal.exponentText l.exponent := rfl
  rw [htext, List.append_assoc]
  exact scanNumber_append h (Literal.spellsExponent_exponentText l.exponent) hrest

end Json

/-! ## Digits of a natural number -/

namespace Decimal

theorem isDigit_of_mem_digits {n : Nat} {c : Char} (h : c ∈ digits n) : c.isDigit = true :=
  Nat.isDigit_of_mem_toDigits (by decide) (by decide) h

theorem digits_ne_nil (n : Nat) : digits n ≠ [] :=
  Nat.toDigits_ne_nil

theorem isDigit_of_mem_zeros {count : Nat} {c : Char} (h : c ∈ zeros count) : c.isDigit = true := by
  rw [List.eq_of_mem_replicate h]
  decide

/-- The digits of a number other than zero do not start with a zero. -/
theorem head?_digits {n : Nat} (hn : n ≠ 0) : (digits n).head? ≠ some '0' := by
  induction n using Nat.base_induction 10 (by decide) with
  | single m hm => simpa [digits, Nat.toDigits_of_lt_base hm] using hn
  | digit m k hk hm ih =>
      rw [digits, ← Nat.toDigits_append_toDigits (by decide) hm hk,
        List.head?_append_of_ne_nil _ Nat.toDigits_ne_nil]
      exact ih (Nat.ne_of_gt hm)

end Decimal

namespace Literal

/-- A whole number without point and exponent. -/
def ofInt (n : Int) : Literal :=
  ⟨decide (n < 0), Decimal.digits n.natAbs, [], none⟩

/-- The digits of a number are a proper whole part, if they are those of zero or the number is another. -/
theorem no_leading_zero_digits (n : Nat) :
    (Decimal.digits n).head? = some '0' → Decimal.digits n = ['0'] := by
  intro hzero
  by_cases hn : n = 0
  · rw [hn, Decimal.digits, Nat.toDigits_zero]
  · exact absurd hzero (Decimal.head?_digits hn)

theorem proper_ofInt (n : Int) : (ofInt n).Proper where
  whole_ne_nil := Decimal.digits_ne_nil _
  whole_digits _ := Decimal.isDigit_of_mem_digits
  no_leading_zero := no_leading_zero_digits _
  fraction_digits := by simp [ofInt]
  exponent_ne_nil := by simp [ofInt]
  exponent_digits := by simp [ofInt]

theorem text_ofInt (n : Int) : (ofInt n).text = integerText n := by
  cases n with
  | ofNat n => simp [ofInt, text, exponentText, Decimal.signText, integerText]
  | negSucc n => simp [ofInt, text, exponentText, Decimal.signText, integerText, Int.natAbs_negSucc]

/-! ## The value of a natural number's literal -/

/-- Digits only make a number larger. -/
theorem le_foldl_digits (n : Nat) (cs : List Char) :
    n ≤ cs.foldl (fun n c => 10 * n + digitValue c) n := by
  induction cs generalizing n with
  | nil => exact Nat.le_refl n
  | cons c cs ih => exact Nat.le_trans (by omega) (ih (10 * n + digitValue c))

/-- Digits of a number that fits sixty-four bits are all taken. -/
theorem gather_of_lt (n : Nat) (cs : List Char)
    (hfits : cs.foldl (fun n c => 10 * n + digitValue c) n < UInt64.size) :
    gather n cs = (cs.foldl (fun n c => 10 * n + digitValue c) n, 0) := by
  induction cs generalizing n with
  | nil => rfl
  | cons c cs ih =>
      rw [List.foldl_cons] at hfits
      have hnext : 10 * n + digitValue c < UInt64.size := Nat.lt_of_le_of_lt (le_foldl_digits _ cs) hfits
      rw [gather, if_pos hnext, ih _ hfits, List.foldl_cons]

theorem natOfDigits_digits (n : Nat) : natOfDigits (Decimal.digits n) = n := by
  have h := @Nat.ofDigitChars_ten_toDigits n
  rw [Nat.ofDigitChars_eq_foldl] at h
  exact h

/-- Digits behind others go on from their number. -/
theorem natOfDigits_append (cs ds : List Char) :
    natOfDigits (cs ++ ds) = ds.foldl (fun n c => 10 * n + digitValue c) (natOfDigits cs) :=
  List.foldl_append

theorem natOfDigits_append_zeros (cs : List Char) (count : Nat) :
    natOfDigits (cs ++ Decimal.zeros count) = natOfDigits cs * 10 ^ count := by
  induction count with
  | zero => simp [Decimal.zeros]
  | succ count ih =>
      rw [Decimal.zeros, List.replicate_succ', ← List.append_assoc, natOfDigits_append, ← Decimal.zeros, ih]
      simp [digitValue, Nat.pow_succ]
      ring

/-- Zeros in front count for nothing. -/
theorem natOfDigits_zeros_append (count : Nat) (ds : List Char) :
    natOfDigits (Decimal.zeros count ++ ds) = natOfDigits ds := by
  have hzeros : natOfDigits (Decimal.zeros count) = 0 := by
    simpa [natOfDigits] using natOfDigits_append_zeros [] count
  rw [natOfDigits_append, hzeros]
  rfl

/-- The literal of a natural number of sixty-four bits stands for that number. -/
theorem numeral_ofInt {n : Nat} (hn : n < UInt64.size) : (ofInt n).numeral = some (.natural n) := by
  have hvalue : (Decimal.digits n).foldl (fun n c => 10 * n + digitValue c) 0 = n := natOfDigits_digits n
  have hgather := gather_of_lt 0 (Decimal.digits n) (by rw [hvalue]; exact hn)
  rw [hvalue] at hgather
  simp [numeral, ofInt, hgather]

end Literal

/-! ## Every number is written as a literal -/

namespace Decimal

open Literal

theorem isDigit_of_mem_take {n count : Nat} {c : Char} (h : c ∈ (digits n).take count) :
    c.isDigit = true :=
  isDigit_of_mem_digits (List.mem_of_mem_take h)

theorem isDigit_of_mem_drop {n count : Nat} {c : Char} (h : c ∈ (digits n).drop count) :
    c.isDigit = true :=
  isDigit_of_mem_digits (List.mem_of_mem_drop h)

/-- A decimal without an exponent. Zero is only laid out with the exponent `0`, or it would get more than
one digit before the point. The literal has the digits of the coefficient, and zeros before or behind them. -/
theorem exists_literal_positional (negative pointZero : Bool) (d : Decimal)
    (hzero : d.coefficient = 0 → d.exponent = 0) :
    ∃ l : Literal, l.Proper ∧ l.text = signText negative ++ positionalText pointZero d
      ∧ l.exponent = none
      ∧ natOfDigits (l.whole ++ l.fraction) ≤ d.coefficient * 10 ^ (d.exponent.toNat + 1) := by
  have hne := digits_ne_nil d.coefficient
  by_cases hwhole : 0 ≤ d.exponent
  · refine ⟨⟨negative, digits d.coefficient ++ zeros d.exponent.toNat,
      if pointZero then zeros 1 else [], none⟩, ⟨?_, ?_, ?_, ?_, ?_, ?_⟩, ?_, rfl, ?_⟩
    · exact List.append_ne_nil_of_left_ne_nil hne _
    · exact fun c hc => (List.mem_append.mp hc).elim isDigit_of_mem_digits isDigit_of_mem_zeros
    · intro hhead
      rw [List.head?_append_of_ne_nil _ hne] at hhead
      have hcoefficient : d.coefficient = 0 := by
        by_contra hcoefficient
        exact head?_digits hcoefficient hhead
      rw [hcoefficient, hzero hcoefficient]
      rfl
    · cases pointZero <;> simp [zeros]
    · simp
    · simp
    · cases pointZero <;> simp [text, exponentText, positionalText, hwhole, zeros]
    · have hdigits := natOfDigits_append_zeros (digits d.coefficient) d.exponent.toNat
      rw [natOfDigits_digits] at hdigits
      cases pointZero with
      | false =>
          rw [if_neg Bool.false_ne_true, List.append_nil, hdigits]
          exact Nat.mul_le_mul_left _ (Nat.pow_le_pow_right (by decide) (Nat.le_succ _))
      | true => rw [if_pos rfl, natOfDigits_append_zeros, hdigits, Nat.mul_assoc, ← Nat.pow_add]
  · have hcoefficient : d.coefficient ≠ 0 := fun h => hwhole (Int.le_of_eq (hzero h).symm)
    by_cases hplaces : (-d.exponent).toNat < (digits d.coefficient).length
    · -- the point stands among the digits
      obtain ⟨point, hpoint⟩ : ∃ n, (digits d.coefficient).length - (-d.exponent).toNat = n := ⟨_, rfl⟩
      have hpositive : 0 < point := by omega
      have hfraction : (digits d.coefficient).drop point ≠ [] := by
        rw [Ne, List.drop_eq_nil_iff]
        omega
      refine ⟨⟨negative, (digits d.coefficient).take point, (digits d.coefficient).drop point, none⟩,
        ⟨?_, fun _ => isDigit_of_mem_take, ?_, fun _ => isDigit_of_mem_drop, by simp, by simp⟩, ?_, rfl, ?_⟩
      · rw [Ne, List.take_eq_nil_iff]
        exact fun h => h.elim (Nat.ne_of_gt hpositive) hne
      · intro hhead
        rw [List.head?_take, if_neg (Nat.ne_of_gt hpositive)] at hhead
        exact absurd hhead (head?_digits hcoefficient)
      · rw [positionalText, if_neg hwhole, if_pos hplaces, hpoint, text, if_neg hfraction, exponentText,
          List.append_nil, List.append_assoc, List.append_assoc]
      · rw [List.take_append_drop, natOfDigits_digits]
        exact Nat.le_mul_of_pos_right _ (Nat.pow_pos (by decide))
    · -- all digits stand behind the point
      have hfraction : zeros ((-d.exponent).toNat - (digits d.coefficient).length)
          ++ digits d.coefficient ≠ [] := List.append_ne_nil_of_right_ne_nil _ hne
      refine ⟨⟨negative, ['0'], zeros ((-d.exponent).toNat - (digits d.coefficient).length)
        ++ digits d.coefficient, none⟩, ⟨by simp, by simp, fun _ => rfl, ?_, by simp, by simp⟩, ?_, rfl, ?_⟩
      · exact fun c hc => (List.mem_append.mp hc).elim isDigit_of_mem_zeros isDigit_of_mem_digits
      · rw [positionalText, if_neg hwhole, if_neg hplaces, text, if_neg hfraction, exponentText,
          List.append_nil]
        simp only [List.append_assoc, List.cons_append, List.nil_append]
      · show natOfDigits (zeros 1 ++ _) ≤ _
        rw [natOfDigits_zeros_append, natOfDigits_zeros_append, natOfDigits_digits]
        exact Nat.le_mul_of_pos_right _ (Nat.pow_pos (by decide))

/-- A decimal with an exponent. The literal has the digits of the coefficient and no other ones. -/
theorem exists_literal_scientific (negative : Bool) (d : Decimal) :
    ∃ l : Literal, l.Proper ∧ l.text = signText negative ++ scientificText d
      ∧ l.exponent ≠ none ∧ natOfDigits (l.whole ++ l.fraction) = d.coefficient
      ∧ l.power - l.fraction.length = d.exponent := by
  have hdigits : ∀ c ∈ digits d.coefficient, c.isDigit = true := fun _ => isDigit_of_mem_digits
  have hne := digits_ne_nil d.coefficient
  generalize hpower : d.exponent + (digits d.coefficient).length - 1 = power
  -- one digit before the point, and the others behind it
  refine ⟨⟨negative, (digits d.coefficient).take 1, (digits d.coefficient).drop 1,
    some (decide (power < 0), digits power.natAbs)⟩, ⟨?_, ?_, ?_, ?_, ?_, ?_⟩, ?_, by simp, ?_, ?_⟩
  · rw [Ne, List.take_eq_nil_iff]
    exact fun h => h.elim Nat.one_ne_zero hne
  · exact fun _ => isDigit_of_mem_take
  · cases hds : digits d.coefficient with
    | nil => exact absurd hds hne
    | cons c cs => simp
  · exact fun _ => isDigit_of_mem_drop
  · rintro _ _ ⟨⟩
    exact digits_ne_nil _
  · rintro _ _ ⟨⟩
    exact fun _ => isDigit_of_mem_digits
  · simp [scientificText, text, exponentText, hpower]
  · rw [List.take_append_drop, natOfDigits_digits]
  · have hlength := List.length_pos_iff.mpr hne
    rw [Literal.power, List.length_drop]
    by_cases hsign : power < 0
    · simp only [hsign, decide_true, natOfDigits_digits]
      omega
    · simp only [hsign, decide_false, natOfDigits_digits]
      omega

/-- The literal has the digits of the decimal, laid out in one of the two ways of the style. -/
def LaidOut (style : Style) (d : Decimal) (l : Literal) : Prop :=
  (l.exponent = none ∧ natOfDigits (l.whole ++ l.fraction) ≤ d.coefficient * 10 ^ (d.exponent.toNat + 1)
      ∧ (d.coefficient = 0 ∨ style.positional (d.exponent + (digits d.coefficient).length - 1) = true))
    ∨ (l.exponent ≠ none ∧ natOfDigits (l.whole ++ l.fraction) = d.coefficient
      ∧ l.power - l.fraction.length = d.exponent)

/-- In every style the text of a decimal, with or without a sign, is the text of a proper literal. -/
theorem Style.exists_literal (style : Style) (negative : Bool) (d : Decimal) :
    ∃ l : Literal, l.Proper ∧ l.text = signText negative ++ style.text d ∧ LaidOut style d l := by
  rw [Style.text]
  split_ifs with hzero hpositional
  · obtain ⟨l, hproper, htext, hexponent, hdigits⟩ :=
      exists_literal_positional negative style.pointZero ⟨0, 0⟩ fun _ => rfl
    have hdigits : natOfDigits (l.whole ++ l.fraction) ≤ d.coefficient * 10 ^ (d.exponent.toNat + 1) := by
      rw [hzero, Nat.zero_mul]
      simpa using hdigits
    exact ⟨l, hproper, htext, Or.inl ⟨hexponent, hdigits, Or.inl hzero⟩⟩
  · obtain ⟨l, hproper, htext, hexponent, hdigits⟩ :=
      exists_literal_positional negative style.pointZero d fun h => absurd h hzero
    exact ⟨l, hproper, htext, Or.inl ⟨hexponent, hdigits, Or.inr hpositional⟩⟩
  · obtain ⟨l, hproper, htext, hspec⟩ := exists_literal_scientific negative d
    exact ⟨l, hproper, htext, Or.inr hspec⟩

end Decimal

/-- The digits that a finite double is written with in JSON. -/
def Decimal.ofShape : Binary64.Shape → Decimal
  | .finite _ (mantissa + 1) exponent => shortest Style.json.tie (mantissa + 1) exponent
  | _ => ⟨0, 0⟩

/-- **A finite double is written as the text of a proper literal**, which has its shortest digits. -/
theorem exists_literal_realText {x : Float} (hx : Binary64.isFinite x = true) :
    ∃ l : Literal, l.Proper ∧ l.text = realText x
      ∧ Decimal.LaidOut .json (.ofShape (Binary64.shape x)) l := by
  rw [realText, if_pos hx, Decimal.Style.float]
  rw [Binary64.isFinite] at hx
  split at hx
  · next negative mantissa exponent hshape =>
      rw [hshape]
      cases mantissa with
      | zero => simpa [Decimal.ofShape] using Decimal.Style.exists_literal .json negative ⟨0, 0⟩
      | succ m =>
          simpa [Decimal.ofShape] using Decimal.Style.exists_literal .json negative
            (Decimal.shortest Decimal.Style.json.tie (m + 1) exponent)
  · exact absurd hx Bool.false_ne_true

end Appraisal
