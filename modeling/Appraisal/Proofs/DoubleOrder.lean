/-
The order of doubles is transitive and antisymmetric, with the NaN and both zeros included.

Doubles are compared by sign first, then by exponent and then by mantissa, and a NaN is comparable with
nothing. Every double that is a number therefore has a place in the lexicographic order of triples of
integers, and one is at most another exactly when its place is. Transitivity is that of the lexicographic
order. Nothing is asked of the doubles, not even that their mantissas are normalised.

Two doubles compare equal exactly if each is at most the other.
-/
import Mathlib.Data.Prod.Lex

set_option autoImplicit false

namespace Appraisal.Binary64

open Float.Model

/-- Where a number stands among the numbers: a class of sign and size, then the exponent, then the mantissa.
Exponents and mantissas of negative numbers count backwards; infinities and zeros have neither. -/
def place : UnpackedFloat → Option (ℤ ×ₗ ℤ ×ₗ ℤ)
  | .notANumber => none
  | .infinity .negative => some (toLex (-2, toLex (0, 0)))
  | .finite .negative mantissa exponent _ => some (toLex (-1, toLex (-exponent, -mantissa)))
  | .zero _ => some (toLex (0, toLex (0, 0)))
  | .finite .positive mantissa exponent _ => some (toLex (1, toLex (exponent, mantissa)))
  | .infinity .positive => some (toLex (2, toLex (0, 0)))

/-- The comparison of two positive finite numbers. -/
theorem isLE_then_compare (e₁ e₂ : ℤ) (m₁ m₂ : ℕ) :
    ((compare e₁ e₂).then (compare m₁ m₂)).isLE = true ↔ e₁ < e₂ ∨ e₁ = e₂ ∧ m₁ ≤ m₂ := by
  rcases lt_trichotomy e₁ e₂ with h | h | h
  · simp [compare_lt_iff_lt.mpr h, h]
  · rw [h]
    simp [Nat.isLE_compare]
  · simp [compare_gt_iff_gt.mpr h, h.not_gt, h.ne']

/-- The comparison of two negative finite numbers, which is that of the positive ones the other way. -/
theorem isGE_then_compare (e₁ e₂ : ℤ) (m₁ m₂ : ℕ) :
    ((compare e₁ e₂).then (compare m₁ m₂)).isGE = true ↔ e₂ < e₁ ∨ e₁ = e₂ ∧ m₂ ≤ m₁ := by
  rw [← Ordering.isLE_swap, Ordering.swap_then, Int.compare_swap, Nat.compare_swap,
    isLE_then_compare, eq_comm]

/-- One number is at most another exactly when its place is; what has no place is at most nothing. -/
theorem le_iff_place (x y : UnpackedFloat) :
    x.le y = true ↔ ∃ p ∈ place x, ∃ q ∈ place y, p ≤ q := by
  rcases x with (_ | _) | _ | (_ | _) | ⟨_ | _, m₁, e₁, hm₁⟩ <;>
    rcases y with (_ | _) | _ | (_ | _) | ⟨_ | _, m₂, e₂, hm₂⟩ <;>
    dsimp only [UnpackedFloat.le, UnpackedFloat.compare, place] <;>
    simp [Prod.Lex.toLex_le_toLex, isLE_then_compare, isGE_then_compare]
  -- what is left are the comparisons of two infinities
  all_goals decide

/-- **Comparing doubles is transitive.** -/
theorem float_le_trans {x y z : Float} (hxy : x ≤ y) (hyz : y ≤ z) : x ≤ z := by
  have hle : ∀ a b : Float, a ≤ b
      ↔ ∃ p ∈ place a.toModel.unpack, ∃ q ∈ place b.toModel.unpack, p ≤ q := by
    intro a b
    rw [← le_iff_place]
    exact decide_eq_true_iff
  obtain ⟨p, hp, q, hq, hpq⟩ := (hle x y).mp hxy
  obtain ⟨q', hq', r, hr, hqr⟩ := (hle y z).mp hyz
  have hsame : q = q' := Option.mem_unique hq hq'
  refine (hle x z).mpr ⟨p, hp, r, hr, le_trans hpq ?_⟩
  rw [hsame]
  exact hqr

/-- Comparing the other way round gives the opposite answer. -/
theorem compare_swap (x y : UnpackedFloat) : y.compare x = (x.compare y).map Ordering.swap := by
  rcases x with (_ | _) | _ | (_ | _) | ⟨_ | _, m₁, e₁, hm₁⟩ <;>
    rcases y with (_ | _) | _ | (_ | _) | ⟨_ | _, m₂, e₂, hm₂⟩ <;>
    dsimp only [UnpackedFloat.compare, Option.map_some, Option.map_none] <;>
    simp [Ordering.swap_then, Int.compare_swap, Nat.compare_swap]
  -- what is left are the comparisons of two infinities
  all_goals decide

/-- **Comparing doubles is antisymmetric**: those that are at most each other are those that compare equal. -/
theorem float_beq_iff {x y : Float} : (x == y) = true ↔ x ≤ y ∧ y ≤ x := by
  have hle : ∀ a b : Float, a ≤ b
      ↔ (a.toModel.unpack.compare b.toModel.unpack).any Ordering.isLE = true :=
    fun a b => decide_eq_true_iff
  have hbeq : (x == y) = (x.toModel.unpack.compare y.toModel.unpack == some .eq) := rfl
  rw [hle, hle, hbeq, compare_swap x.toModel.unpack]
  cases x.toModel.unpack.compare y.toModel.unpack with
  | none => decide
  | some order => cases order <;> decide

end Appraisal.Binary64
