/-
Rounding keeps the order of numbers.

When a mantissa is shifted to the right, two bits remember what goes out: whether it was a half or more, and
whether there was anything besides. With them the mantissa says exactly where the number lies between two whole
ones (`Locates`), which settles what it is rounded to. A larger number is never rounded to a smaller mantissa,
and never to a smaller exponent, so rounded numbers are in the order of the exact ones (`Rounds.le`). A number
that is the magnitude of a double is rounded to itself (`Rounds.eq_of_isMagnitude`).

Products of doubles are rounded in this sense.
-/
import Appraisal.Proofs.DoubleRange

set_option autoImplicit false

namespace Appraisal.Binary64

open Float.Model
open Float.Model.UnpackedFloat (ExtendedMantissa)

/-! ## Where a number lies -/

/-- A mantissa with its two bits says where a number lies: from which whole number on, whether in the upper half,
and whether apart from the ends of its half. -/
structure Locates (em : ExtendedMantissa) (q : ℚ) : Prop where
  le : (em.mantissa : ℚ) ≤ q
  lt : q < em.mantissa + 1
  roundBit : em.roundBit = true ↔ (em.mantissa : ℚ) + 1 / 2 ≤ q
  stickyBit : em.stickyBit = true ↔ q ≠ em.mantissa ∧ q ≠ em.mantissa + 1 / 2

namespace Locates

variable {em em' : ExtendedMantissa} {q q' : ℚ}

theorem ofExact (m : ℕ) : Locates (.ofMantissaAndAccuracy m .exact) m := by
  refine ⟨le_refl _, lt_add_one _, ?_, ?_⟩
  · refine iff_of_false Bool.false_ne_true ?_
    show ¬(m : ℚ) + 1 / 2 ≤ m
    linarith
  · exact iff_of_false Bool.false_ne_true fun h => h.1 rfl

/-- The bit that goes out becomes the round bit, and both bits from before are kept in the other one. -/
theorem shiftRightOne (h : Locates em q) : Locates em.shiftRightOne (q / 2) := by
  obtain ⟨hle, hlt, hround, hsticky⟩ := h
  have hbits : (em.roundBit || em.stickyBit) = true ↔ q ≠ em.mantissa := by
    rw [Bool.or_eq_true, hround, hsticky]
    constructor
    · rintro (hupper | ⟨hne, -⟩)
      · linarith
      · exact hne
    · intro hne
      by_cases hhalf : q = em.mantissa + 1 / 2
      · exact Or.inl hhalf.ge
      · exact Or.inr ⟨hne, hhalf⟩
  have hodd : (em.mantissa % 2 != 0) = true ↔ em.mantissa % 2 = 1 := by
    rw [bne_iff_ne]
    omega
  obtain ⟨half, rest, hsplit, hhalf, hrest⟩ :
      ∃ half rest : ℕ, em.mantissa = 2 * half + rest ∧ em.mantissa / 2 = half ∧ em.mantissa % 2 = rest :=
    ⟨_, _, (Nat.div_add_mod ..).symm, rfl, rfl⟩
  have hmantissa : em.shiftRightOne.mantissa = half := hhalf
  have hcast : (em.mantissa : ℚ) = 2 * half + rest := by exact_mod_cast hsplit
  rw [hcast] at hle hlt hbits
  rw [hrest] at hodd
  have hroundBit : em.shiftRightOne.roundBit = true ↔ rest = 1 := by rw [← hodd, ← hrest]; rfl
  -- the number lies in the lower half if the mantissa is even, and in the upper half if it is odd
  have hcases : rest = 0 ∨ rest = 1 := by omega
  rcases hcases with rfl | rfl
  · rw [Nat.cast_zero, add_zero] at hle hlt hbits
    refine ⟨?_, ?_, hroundBit.trans (iff_of_false Nat.zero_ne_one ?_), hbits.trans ?_⟩ <;> rw [hmantissa]
    · linarith
    · linarith
    · linarith
    · constructor
      · intro hne
        exact ⟨fun h => hne (by linarith), fun h => by linarith⟩
      · rintro ⟨hne, -⟩ h
        exact hne (by linarith)
  · rw [Nat.cast_one] at hle hlt hbits
    refine ⟨?_, ?_, hroundBit.trans (iff_of_true rfl ?_), hbits.trans ?_⟩ <;> rw [hmantissa]
    · linarith
    · linarith
    · linarith
    · constructor
      · intro hne
        exact ⟨fun h => by linarith, fun h => hne (by linarith)⟩
      · rintro ⟨-, hne⟩ h
        exact hne (by linarith)

theorem shiftRight (h : Locates em q) (n : ℕ) : Locates (em >>> n) (q / 2 ^ n) := by
  induction n with
  | zero => rwa [pow_zero, div_one]
  | succ n ih =>
      rw [pow_succ, ← div_div]
      exact ih.shiftRightOne

/-- A number that is located goes up if it lies in the upper half, and on the middle if that makes it even. -/
theorem roundedMantissa_eq (em : ExtendedMantissa) :
    em.roundedMantissa = em.mantissa
      + if em.roundBit = true then (if em.stickyBit = true then 1 else em.mantissa % 2) else 0 := by
  obtain ⟨m, roundBit, stickyBit⟩ := em
  cases roundBit <;> cases stickyBit <;> rfl

/-- **A larger number is not rounded to a smaller mantissa.** If both have the same whole part, the larger one is
in the upper half whenever the smaller one is, and if the larger one is in the middle, so is the smaller one. -/
theorem roundedMantissa_le (h : Locates em q) (h' : Locates em' q') (hle : q ≤ q') :
    em.roundedMantissa ≤ em'.roundedMantissa := by
  obtain ⟨hlower, hupper⟩ := mantissa_le_roundedMantissa em
  obtain ⟨hlower', hupper'⟩ := mantissa_le_roundedMantissa em'
  have hmantissa : em.mantissa ≤ em'.mantissa := by
    have hlt : (em.mantissa : ℚ) < em'.mantissa + 1 := (h.le.trans hle).trans_lt h'.lt
    have hlt : em.mantissa < em'.mantissa + 1 := by exact_mod_cast hlt
    omega
  rcases hmantissa.lt_or_eq with hless | hsame
  · omega
  · -- with the same whole part, the one bit that is added to each of the two decides
    rw [roundedMantissa_eq, roundedMantissa_eq, hsame]
    by_cases hround : em.roundBit = true
    · have hround' : em'.roundBit = true := by
        rw [h'.roundBit, ← hsame]
        exact (h.roundBit.mp hround).trans hle
      rw [if_pos hround, if_pos hround']
      by_cases hsticky' : em'.stickyBit = true
      · rw [if_pos hsticky']
        split_ifs <;> omega
      · -- the larger one is in the middle and the smaller one not below it, so both are
        have hupper := h.roundBit.mp hround
        have hmiddle' : q' = em'.mantissa + 1 / 2 := by
          have hend := (not_congr h'.stickyBit).mp hsticky'
          rw [not_and_or, not_not, not_not] at hend
          exact hend.resolve_left fun heq => by linarith [h'.roundBit.mp hround']
        have hmiddle : q = em.mantissa + 1 / 2 := by
          rw [hmiddle', ← hsame] at hle
          exact le_antisymm hle hupper
        have hsticky : ¬em.stickyBit = true := fun hsticky => (h.stickyBit.mp hsticky).2 hmiddle
        rw [if_neg hsticky, if_neg hsticky']
    · rw [if_neg hround]
      omega

/-- A whole number is rounded to itself. -/
theorem roundedMantissa_natCast {n : ℕ} (h : Locates em n) : em.roundedMantissa = n := by
  have hmantissa : em.mantissa = n := by
    have hle : em.mantissa ≤ n := by exact_mod_cast h.le
    have hlt : n < em.mantissa + 1 := by exact_mod_cast h.lt
    omega
  have hround : ¬em.roundBit = true := by
    rw [h.roundBit, hmantissa]
    linarith
  rw [roundedMantissa_eq, if_neg hround, hmantissa, Nat.add_zero]

end Locates

/-! ## Rounded numbers -/

/-- The second number is what the first one is rounded to: it is located in units of the power of two that leaves
it at most fifty-three bits, and all of them if the power is not the least one. -/
def Rounds (q r : ℚ) : Prop :=
  ∃ (em : ExtendedMantissa) (t : ℤ), Locates em (q / 2 ^ t) ∧ em.mantissa < 2 ^ 53 ∧ -1074 ≤ t
    ∧ (2 ^ 52 ≤ em.mantissa ∨ t = -1074) ∧ r = em.roundedMantissa * 2 ^ t

/-- A mantissa of fifty-three bits is no more than a full one with a larger exponent. -/
theorem two_pow_mul_le {s s' : ℤ} (hlt : s < s') : (2 : ℚ) ^ 53 * 2 ^ s ≤ 2 ^ 52 * 2 ^ s' := by
  have hstep : (2 : ℚ) ^ (s + 1) ≤ 2 ^ s' := zpow_le_zpow_right₀ (by norm_num) (by omega)
  calc (2 : ℚ) ^ 53 * 2 ^ s = 2 ^ 52 * 2 ^ (s + 1) := by
        rw [zpow_add_one₀ (by norm_num : (2 : ℚ) ≠ 0)]
        ring
    _ ≤ 2 ^ 52 * 2 ^ s' := by gcongr

namespace Rounds

variable {q q' r r' : ℚ}

theorem zero : Rounds 0 0 := by
  refine ⟨.ofMantissaAndAccuracy 0 .exact, -1074, ?_, by decide, le_refl _, Or.inr rfl, ?_⟩
  · simpa using Locates.ofExact 0
  · have hzero : (ExtendedMantissa.ofMantissaAndAccuracy 0 .exact).roundedMantissa = 0 := rfl
    rw [hzero, Nat.cast_zero, zero_mul]

/-- **Rounding keeps the order.** Of two exponents the smaller one belongs to the smaller number. With the same
exponent the mantissas decide, and a mantissa with a smaller exponent is no match for a full one. -/
theorem le (h : Rounds q r) (h' : Rounds q' r') (hle : q ≤ q') : r ≤ r' := by
  obtain ⟨em, t, hem, hshort, hleast, hnormal, rfl⟩ := h
  obtain ⟨em', t', hem', hshort', hleast', hnormal', rfl⟩ := h'
  have hpos : (0 : ℚ) < 2 ^ t := by positivity
  have hpos' : (0 : ℚ) < 2 ^ t' := by positivity
  rcases lt_trichotomy t t' with hlt | rfl | hgt
  · have hfull : 2 ^ 52 ≤ em'.mantissa := hnormal'.resolve_right (by omega)
    have hrounded : em.roundedMantissa ≤ 2 ^ 53 := (mantissa_le_roundedMantissa em).2.trans hshort
    have hrounded' : 2 ^ 52 ≤ em'.roundedMantissa := hfull.trans (mantissa_le_roundedMantissa em').1
    calc (em.roundedMantissa : ℚ) * 2 ^ t ≤ 2 ^ 53 * 2 ^ t := by
          gcongr
          exact_mod_cast hrounded
      _ ≤ 2 ^ 52 * 2 ^ t' := two_pow_mul_le hlt
      _ ≤ em'.roundedMantissa * 2 ^ t' := by
          gcongr
          exact_mod_cast hrounded'
  · have hsame : q / 2 ^ t ≤ q' / 2 ^ t := by gcongr
    have hrounded : (em.roundedMantissa : ℚ) ≤ em'.roundedMantissa := by
      exact_mod_cast hem.roundedMantissa_le hem' hsame
    gcongr
  · -- a full mantissa with the larger exponent is beyond the other number
    exfalso
    have hfull : 2 ^ 52 ≤ em.mantissa := hnormal.resolve_right (by omega)
    have hfull : (2 : ℚ) ^ 52 ≤ em.mantissa := by exact_mod_cast hfull
    have hshort' : (em'.mantissa : ℚ) + 1 ≤ 2 ^ 53 := by exact_mod_cast hshort'
    have hlarge : (2 : ℚ) ^ 52 * 2 ^ t ≤ q := (le_div_iff₀ hpos).mp (hfull.trans hem.le)
    have hsmall : q' < 2 ^ 53 * 2 ^ t' := (div_lt_iff₀ hpos').mp (hem'.lt.trans_le hshort')
    exact absurd (hlarge.trans (hle.trans hsmall.le)) (by linarith [two_pow_mul_le hgt])

/-- **What fits is not changed.** A magnitude is a whole number of units, since a full mantissa with a larger
exponent is beyond it. -/
theorem eq_of_isMagnitude (h : Rounds q r) (hq : IsMagnitude q) : r = q := by
  obtain ⟨em, t, hem, hshort, hleast, hnormal, rfl⟩ := h
  obtain ⟨m, e, hm, he, -, rfl⟩ := hq
  have hpos : (0 : ℚ) < 2 ^ t := by positivity
  by_cases hexp : t ≤ e
  · -- counted in units of the last place it is a whole number
    obtain ⟨k, rfl⟩ : ∃ k : ℕ, e = t + k := ⟨(e - t).toNat, by omega⟩
    have hunits : (m : ℚ) * 2 ^ (t + k) = (m * 2 ^ k : ℕ) * 2 ^ t := by
      rw [zpow_add₀ (by norm_num : (2 : ℚ) ≠ 0), zpow_natCast]
      push_cast
      ring
    rw [hunits, mul_div_cancel_right₀ _ hpos.ne'] at hem
    rw [hunits, hem.roundedMantissa_natCast]
  · -- otherwise a full mantissa would count more units than the magnitude has
    exfalso
    have hfull : 2 ^ 52 ≤ em.mantissa := hnormal.resolve_right (by omega)
    have hfull : (2 : ℚ) ^ 52 ≤ em.mantissa := by exact_mod_cast hfull
    have hlarge : (2 : ℚ) ^ 52 * 2 ^ t ≤ m * 2 ^ e := (le_div_iff₀ hpos).mp (hfull.trans hem.le)
    have hsmall : (m : ℚ) * 2 ^ e < 2 ^ 53 * 2 ^ e := by
      have hm : (m : ℚ) < 2 ^ 53 := by exact_mod_cast hm
      gcongr
    have hgap : (2 : ℚ) ^ 53 * 2 ^ e ≤ 2 ^ 52 * 2 ^ t := two_pow_mul_le (by omega)
    linarith

end Rounds

/-! ## What is rounded in this sense -/

/-- An exact number that has no bits to lose yet. -/
theorem rounds_roundWithAccuracy (sign : UnpackedFloat.Sign) {m : ℕ} {e : ℤ} (hfits : 2 ^ 52 ≤ m ∨ e ≤ -1074) :
    Rounds (m * 2 ^ e) (unpackedMagnitude (UnpackedFloat.roundWithAccuracy .binary64 sign m e .exact)) := by
  obtain ⟨n, hshort, hleast, hnormal, -, -, hmagnitude⟩ := roundWithAccuracy_parts sign .exact hfits
  refine ⟨_, e + n, ?_, hshort, hleast, hnormal, hmagnitude⟩
  have hunits : (m : ℚ) * 2 ^ e / 2 ^ (e + n) = m / 2 ^ n := by
    rw [zpow_add₀ (by norm_num : (2 : ℚ) ≠ 0), zpow_natCast]
    field_simp
  rw [hunits]
  exact (Locates.ofExact m).shiftRight n

theorem rounds_round (sign : UnpackedFloat.Sign) {m : ℕ} (e : ℤ) (hm : m ≠ 0) :
    Rounds (m * 2 ^ e) (unpackedMagnitude (UnpackedFloat.round .binary64 sign m e)) := by
  obtain ⟨m', e', hround, hfits, hmagnitude⟩ := exists_round_eq sign e hm
  rw [hround, ← hmagnitude]
  exact rounds_roundWithAccuracy sign hfits

/-- A product of two numbers in form is that of their magnitudes, rounded. -/
theorem rounds_mul_unpacked {u v : UnpackedFloat} (hu : Canonical u) (hv : Canonical v) :
    Rounds (unpackedMagnitude u * unpackedMagnitude v) (unpackedMagnitude (.mul .binary64 u v)) := by
  cases hu using Canonical.cases with
  | zero =>
      rw [unpackedMagnitude_zero, zero_mul]
      cases hv using Canonical.cases with
      | zero => exact .zero
      | finite => exact .zero
  | finite sign m e hm hu =>
      cases hv using Canonical.cases with
      | zero =>
          rw [unpackedMagnitude_zero, mul_zero]
          exact .zero
      | finite sign' m' e' hm' hv =>
          -- the mantissas are multiplied as naturals, and only then is anything rounded
          have hexact : (m : ℚ) * 2 ^ e * (m' * 2 ^ e') = (m * m' : ℕ) * 2 ^ (e + e') := by
            rw [zpow_add₀ (by norm_num : (2 : ℚ) ≠ 0)]
            push_cast
            ring
          rw [unpackedMagnitude_finite, unpackedMagnitude_finite, hexact]
          exact rounds_roundWithAccuracy (sign * sign') (mul_fits hm hm' hu hv)

/-! ## Products of doubles -/

section Products

variable {x y : Float} {b : ℚ}

/-- A product within the magnitude of a double is packed without loss. -/
theorem unpack_mul (hx : isFinite x = true) (hy : isFinite y = true) (hb : IsMagnitude b)
    (hle : magnitude x * magnitude y ≤ b) :
    (x * y).toModel.unpack = .mul .binary64 x.toModel.unpack y.toModel.unpack := by
  obtain ⟨hcanonical, hbound⟩ :=
    mul_unpacked_spec ((canonical_unpack_iff x).mpr hx) ((canonical_unpack_iff y).mpr hy) hb hle
  exact unpack_pack hcanonical hb hbound

theorem rounds_mul (hx : isFinite x = true) (hy : isFinite y = true) (hb : IsMagnitude b)
    (hle : magnitude x * magnitude y ≤ b) : Rounds (magnitude x * magnitude y) (magnitude (x * y)) := by
  have hrounds := rounds_mul_unpacked ((canonical_unpack_iff x).mpr hx) ((canonical_unpack_iff y).mpr hy)
  rwa [← unpack_mul hx hy hb hle] at hrounds

end Products

end Appraisal.Binary64
