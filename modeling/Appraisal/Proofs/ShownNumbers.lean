/-
What a sentence says of a number.

A sentence shows a finite number by its digits, and has a name for every other one: `inf` and `NaN`. A text
that holds no such name shows finite numbers only. This is not kept by putting texts behind one another,
since a name could be begun by one of them and ended by the next. So the texts that sentences are made of are
shown to be `Seamless`: they hold no name, and none begins at their end. Digits are, and so is every fixed
text and every word in front of a number.
-/
import Mathlib.Data.List.Infix
import Appraisal.Proofs.DoubleRange
import Appraisal.Proofs.NumberText

set_option autoImplicit false

namespace Appraisal

open Binary64

/-! ## Texts without the names -/

/-- The names that a sentence has for what is no finite number. -/
def Decimal.nonfiniteNames : List (List Char) :=
  [['i', 'n', 'f'], ['N', 'a', 'N']]

/-- The text shows finite numbers only, whatever is put behind it: no name occurs in it, and no part of a
name stands at its end. -/
structure Seamless (text : String) : Prop where
  holds_no_name : ∀ name ∈ Decimal.nonfiniteNames, ¬name <:+: text.toList
  begins_no_name : ∀ name ∈ Decimal.nonfiniteNames, ∀ front ∈ name.inits, front <:+ text.toList → front = []

instance (text : String) : Decidable (Seamless text) :=
  decidable_of_iff (_ ∧ _) ⟨fun h => ⟨h.1, h.2⟩, fun h => ⟨h.1, h.2⟩⟩

namespace Decimal

/-- Does a name begin the text, or the text begin a name? -/
def meetsName (cs : List Char) : Bool :=
  nonfiniteNames.any fun name => name.isPrefixOf cs || cs.isPrefixOf name

/-- Does the text meet a name at none of its places? This is `Seamless`, computed letter by letter. -/
def avoidsNames : List Char → Bool
  | [] => true
  | c :: cs => !meetsName (c :: cs) && avoidsNames cs

theorem meetsName_of_suffix {cs rest : List Char} (h : avoidsNames cs = true) (hrest : rest <:+ cs)
    (hne : rest ≠ []) : meetsName rest = false := by
  induction cs with
  | nil => exact absurd (List.suffix_nil.mp hrest) hne
  | cons c cs ih =>
      rw [avoidsNames, Bool.and_eq_true, Bool.not_eq_true'] at h
      rcases List.suffix_cons_iff.mp hrest with rfl | hbehind
      · exact h.1
      · exact ih h.2 hbehind

end Decimal

namespace Seamless

variable {text behind : String}

/-- A name that is begun by one text and ended by the next would have a part at the end of the first. -/
theorem append (h : Seamless text) (h' : Seamless behind) : Seamless (text ++ behind) where
  holds_no_name := by
    intro name hname hholds
    rw [String.toList_append, List.infix_append_iff] at hholds
    rcases hholds with hfirst | hsecond | ⟨front, rest, rfl, hfront, hrest⟩
    · exact h.holds_no_name name hname hfirst
    · exact h'.holds_no_name name hname hsecond
    · obtain rfl := h.begins_no_name _ hname front ((List.mem_inits _ _).mpr (List.prefix_append _ _)) hfront
      exact h'.holds_no_name _ hname hrest.isInfix
  begins_no_name := by
    intro name hname front hmem hfront
    rw [String.toList_append] at hfront
    rcases List.suffix_or_suffix_of_suffix hfront (List.suffix_append _ _) with hsecond | ⟨start, rfl⟩
    · exact h'.begins_no_name name hname front hmem hsecond
    · have hstart : start <:+ text.toList := ((List.suffix_append_inj_of_length_eq rfl).mp hfront).1
      have hprefix : start ∈ name.inits :=
        (List.mem_inits _ _).mpr ((List.prefix_append _ _).trans ((List.mem_inits _ _).mp hmem))
      obtain rfl := h.begins_no_name name hname start hprefix hstart
      exact h'.begins_no_name name hname _ hmem (List.suffix_refl _)

/-- A text without any letter of a name is seamless. -/
theorem of_forall_mem (h : ∀ c ∈ text.toList, c ∉ ['i', 'n', 'f', 'N', 'a']) : Seamless text := by
  have hletters : ∀ name ∈ Decimal.nonfiniteNames, ∀ c ∈ name, c ∈ ['i', 'n', 'f', 'N', 'a'] := by
    simp [Decimal.nonfiniteNames]
  constructor
  · intro name hname hholds
    have hne : name ≠ [] := by
      rintro rfl
      simp [Decimal.nonfiniteNames] at hname
    obtain ⟨c, hc⟩ := List.exists_mem_of_ne_nil name hne
    exact h c (hholds.subset hc) (hletters name hname c hc)
  · intro name hname front hmem hsuffix
    rw [List.mem_inits] at hmem
    refine List.eq_nil_iff_forall_not_mem.mpr fun c hc => ?_
    exact h c (hsuffix.subset hc) (hletters name hname c (hmem.subset hc))

/-- In a fixed text that avoids the names, no name and no part of one stands at any place. -/
theorem literal {cs : List Char} (h : Decimal.avoidsNames cs = true) : Seamless (String.ofList cs) := by
  have hapart : ∀ name ∈ Decimal.nonfiniteNames, ∀ rest, rest <:+ cs → rest ≠ [] →
      ¬name <+: rest ∧ ¬rest <+: name := by
    intro name hname rest hrest hne
    have hmeets := Decimal.meetsName_of_suffix h hrest hne
    rw [Decimal.meetsName, List.any_eq_false] at hmeets
    simpa using hmeets name hname
  constructor
  · intro name hname hholds
    rw [String.toList_ofList] at hholds
    obtain ⟨rest, hprefix, hrest⟩ := List.infix_iff_prefix_suffix.mp hholds
    have hne : rest ≠ [] := by
      rintro rfl
      rw [List.prefix_nil.mp hprefix] at hname
      exact absurd hname (by decide)
    exact (hapart name hname rest hrest hne).1 hprefix
  · intro name hname front hmem hfront
    rw [String.toList_ofList] at hfront
    by_contra hne
    exact (hapart name hname front hfront hne).2 ((List.mem_inits _ _).mp hmem)

end Seamless

/-! ## Numbers in a sentence -/

/-- A digit is no letter of a name. -/
theorem not_mem_of_isDigit {c : Char} (h : c.isDigit = true) : c ∉ ['i', 'n', 'f', 'N', 'a'] := by
  intro hmem
  simp only [List.mem_cons, List.not_mem_nil, or_false] at hmem
  rcases hmem with rfl | rfl | rfl | rfl | rfl <;> exact absurd h (by decide)

theorem seamless_nat (n : Nat) : Seamless (toString n) := by
  refine .of_forall_mem fun c hc => not_mem_of_isDigit (Decimal.isDigit_of_mem_digits (n := n) ?_)
  rwa [show toString n = n.repr from rfl, Nat.toList_repr] at hc

theorem isDigit_or_eq_of_mem_unitsText {places units : Nat} {c : Char}
    (hc : c ∈ Decimal.unitsText places units) : c.isDigit = true ∨ c = '.' := by
  have hpadded : ∀ c ∈ Decimal.zeros (places + 1 - (Decimal.digits units).length) ++ Decimal.digits units,
      c.isDigit = true := by
    intro c hc
    rcases List.mem_append.mp hc with hzero | hdigit
    · exact Decimal.isDigit_of_mem_zeros hzero
    · exact Decimal.isDigit_of_mem_digits hdigit
  rw [Decimal.unitsText] at hc
  split at hc
  · exact Or.inl (hpadded c (List.mem_of_mem_take hc))
  · simp only [List.mem_append, List.mem_singleton] at hc
    rcases hc with (hwhole | hpoint) | hrest
    · exact Or.inl (hpadded c (by simpa using List.mem_of_mem_take hwhole))
    · exact Or.inr hpoint
    · exact Or.inl (hpadded c (by simpa using List.mem_of_mem_drop hrest))

/-- A finite number is shown by its digits. -/
theorem seamless_fixed {x : Float} (hx : isFinite x = true) (places : Nat) :
    Seamless (Decimal.fixed places x) := by
  obtain ⟨negative, m, e, hshape⟩ := isFinite_iff_shape.mp hx
  rw [Decimal.fixed, hshape]
  refine .of_forall_mem fun c hc => ?_
  rw [String.toList_ofList, List.mem_append] at hc
  rcases hc with hsign | hunits
  · cases negative with
    | false => exact absurd hsign List.not_mem_nil
    | true =>
        obtain rfl := List.mem_singleton.mp hsign
        decide
  · rcases isDigit_or_eq_of_mem_unitsText hunits with hdigit | rfl
    · exact not_mem_of_isDigit hdigit
    · decide

end Appraisal
