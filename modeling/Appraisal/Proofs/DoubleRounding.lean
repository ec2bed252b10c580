/-
Rounding to the form of a double.

A number is rounded by shifting its mantissa to the right until it fits and then going up by at most one. What
is shifted out is never forgotten: as long as something is missing, the mantissa is strictly below the exact
number. So a rounded number never gets past a bound that is itself the magnitude of a double, and below such a
bound packing the number into sixty-four bits loses nothing.

Magnitudes are rational numbers, and the sign is left out of them.
-/
import Mathlib.Algebra.Order.Field.Power
import Mathlib.Algebra.Order.Field.Rat
import Mathlib.Tactic.FieldSimp
import Mathlib.Tactic.Linarith
import Mathlib.Tactic.Positivity
import Mathlib.Tactic.Ring

set_option autoImplicit false

namespace Appraisal.Binary64

open Float.Model
open Float.Model.UnpackedFloat (ExtendedMantissa Accuracy)

/-! ## Magnitudes -/

/-- A rational number is the magnitude of a finite double. -/
def IsMagnitude (y : ℚ) : Prop :=
  ∃ (m : ℕ) (e : ℤ), m < 2 ^ 53 ∧ -1074 ≤ e ∧ e ≤ 971 ∧ y = m * 2 ^ e

theorem IsMagnitude.nonneg {y : ℚ} (hy : IsMagnitude y) : 0 ≤ y := by
  obtain ⟨m, e, _, _, _, rfl⟩ := hy
  positivity

theorem isMagnitude_natCast {n : ℕ} (hn : n < 2 ^ 53) : IsMagnitude n :=
  ⟨n, 0, hn, by decide, by decide, by simp⟩

theorem isMagnitude_zero : IsMagnitude 0 :=
  ⟨0, 0, by decide, by decide, by decide, by simp⟩

/-- The powers of two up to the largest one that is a double. -/
theorem isMagnitude_two_pow {k : ℕ} (hk : k ≤ 1023) : IsMagnitude (2 ^ k) := by
  refine ⟨2 ^ 52, (k : ℤ) - 52, by decide, by omega, by omega, ?_⟩
  rw [zpow_sub₀ (by norm_num : (2 : ℚ) ≠ 0), zpow_natCast]
  norm_num
  ring

theorem IsMagnitude.max {x y : ℚ} (hx : IsMagnitude x) (hy : IsMagnitude y) : IsMagnitude (max x y) := by
  rcases le_total x y with h | h
  · rwa [max_eq_right h]
  · rwa [max_eq_left h]

/-- No magnitude reaches the power of two behind the largest double. -/
theorem IsMagnitude.lt {y : ℚ} (hy : IsMagnitude y) : y < 2 ^ (1024 : ℤ) := by
  obtain ⟨m, e, hm, _, he, rfl⟩ := hy
  have hm : (m : ℚ) < 2 ^ 53 := by exact_mod_cast hm
  have hpos : (0 : ℚ) < 2 ^ e := by positivity
  calc (m : ℚ) * 2 ^ e < 2 ^ 53 * 2 ^ e := by gcongr
    _ ≤ 2 ^ 53 * 2 ^ (971 : ℤ) := by gcongr; norm_num
    _ = 2 ^ (1024 : ℤ) := by
      rw [← zpow_natCast, ← zpow_add₀ (by norm_num : (2 : ℚ) ≠ 0)]
      rfl

/-! ## Shifting to the right -/

/-- What is left of a number after shifting: at most the number, and less if anything was shifted out. -/
structure Below (em : ExtendedMantissa) (q : ℚ) : Prop where
  le : (em.mantissa : ℚ) ≤ q
  lt : (em.roundBit || em.stickyBit) = true → (em.mantissa : ℚ) < q

namespace Below

variable {em : ExtendedMantissa} {q : ℚ}

theorem ofExact (m : ℕ) : Below (.ofMantissaAndAccuracy m .exact) m :=
  ⟨le_refl _, Bool.noConfusion⟩

theorem shiftRightOne (h : Below em q) : Below em.shiftRightOne (q / 2) := by
  have hhalf : 2 * (em.mantissa / 2) ≤ em.mantissa := by omega
  have hhalf : 2 * ((em.mantissa / 2 : ℕ) : ℚ) ≤ em.mantissa := by exact_mod_cast hhalf
  refine ⟨?_, fun hbits => ?_⟩
  · show ((em.mantissa / 2 : ℕ) : ℚ) ≤ q / 2
    linarith [h.le]
  · show ((em.mantissa / 2 : ℕ) : ℚ) < q / 2
    -- the bit that goes out now is the last one of the mantissa; all others went out before
    rcases Bool.or_eq_true_iff.mp hbits with hodd | hbefore
    · have hodd : em.mantissa % 2 = 1 := Nat.mod_two_ne_zero.mp (bne_iff_ne.mp hodd)
      have hsplit : 2 * (em.mantissa / 2) + 1 = em.mantissa := by omega
      have hsplit : 2 * ((em.mantissa / 2 : ℕ) : ℚ) + 1 = em.mantissa := by exact_mod_cast hsplit
      linarith [h.le]
    · linarith [h.lt hbefore]

theorem shiftRight (h : Below em q) (n : ℕ) : Below (em >>> n) (q / 2 ^ n) := by
  induction n with
  | zero => rwa [pow_zero, div_one]
  | succ n ih =>
      rw [pow_succ, ← div_div]
      exact ih.shiftRightOne

/-- Rounding does not get past a whole number that bounds the number itself. -/
theorem roundedMantissa_le (h : Below em q) {n : ℕ} (hq : q ≤ n) : em.roundedMantissa ≤ n := by
  obtain ⟨m, roundBit, stickyBit⟩ := em
  have hm : m ≤ n := by exact_mod_cast h.le.trans hq
  have hsucc : (roundBit || stickyBit) = true → m + 1 ≤ n := by
    intro hbits
    exact_mod_cast (h.lt hbits).trans_le hq
  cases roundBit <;> cases stickyBit
  · exact hm
  · exact hm
  · have hsucc := hsucc rfl
    show m + m % 2 ≤ n
    omega
  · exact hsucc rfl

end Below

theorem mantissa_shiftRight (em : ExtendedMantissa) (n : ℕ) :
    (em >>> n).mantissa = em.mantissa / 2 ^ n := by
  induction n with
  | zero => exact (Nat.div_one _).symm
  | succ n ih =>
      show (em >>> n).mantissa / 2 = _
      rw [ih, Nat.div_div_eq_div_mul, Nat.pow_succ]

theorem mantissa_le_roundedMantissa (em : ExtendedMantissa) :
    em.mantissa ≤ em.roundedMantissa ∧ em.roundedMantissa ≤ em.mantissa + 1 := by
  obtain ⟨m, roundBit, stickyBit⟩ := em
  cases roundBit <;> cases stickyBit
  · exact ⟨Nat.le_refl m, Nat.le_succ m⟩
  · exact ⟨Nat.le_refl m, Nat.le_succ m⟩
  · show m ≤ m + m % 2 ∧ m + m % 2 ≤ m + 1
    omega
  · exact ⟨Nat.le_succ m, Nat.le_refl _⟩

theorem mantissa_ofMantissaAndAccuracy (m : ℕ) (accuracy : Accuracy) :
    (ExtendedMantissa.ofMantissaAndAccuracy m accuracy).mantissa = m := by
  rcases accuracy with _ | (_ | _ | _) <;> rfl

/-! ## Rounding -/

/-- The magnitude of an unpacked number; what is no number has none. -/
def unpackedMagnitude : UnpackedFloat → ℚ
  | .finite _ m e _ => m * 2 ^ e
  | _ => 0

@[simp] theorem unpackedMagnitude_zero (sign : UnpackedFloat.Sign) : unpackedMagnitude (.zero sign) = 0 :=
  rfl

@[simp] theorem unpackedMagnitude_finite (sign : UnpackedFloat.Sign) (m : ℕ) (e : ℤ) (hm : 0 < m) :
    unpackedMagnitude (.finite sign m e hm) = m * 2 ^ e :=
  rfl

/-- A number the way doubles are unpacked, apart from an exponent that may be too large. -/
def Canonical : UnpackedFloat → Prop
  | .finite _ m e _ => m < 2 ^ 53 ∧ -1074 ≤ e ∧ (2 ^ 52 ≤ m ∨ e = -1074)
  | .zero _ => True
  | _ => False

/-- A number in form is a zero or has a mantissa. -/
@[elab_as_elim]
theorem Canonical.cases {motive : (u : UnpackedFloat) → Canonical u → Prop}
    (zero : ∀ sign, motive (.zero sign) trivial)
    (finite : ∀ sign m e hm (hu : Canonical (.finite sign m e hm)), motive (.finite sign m e hm) hu)
    {u : UnpackedFloat} (hu : Canonical u) : motive u hu := by
  cases u with
  | infinity => exact hu.elim
  | notANumber => exact hu.elim
  | zero sign => exact zero sign
  | finite sign m e hm => exact finite sign m e hm hu

/-- A double has fifty-three bits for the mantissa, the leading one included. -/
theorem mantissaBits_binary64 : Format.binary64.mantissaBits = 53 :=
  rfl

/-- The exponent that a mantissa is shifted to leaves it fifty-three bits, or else is the least one. -/
theorem targetExponent_eq (m : ℕ) (e : ℤ) :
    Format.binary64.targetExponent (totalExponent m e) = max (m.log2 + e - 52) (-1074) := by
  simp only [Format.targetExponent, totalExponent, mantissaBits_binary64, Format.minExponent]
  norm_num
  congr 1
  ring

/-- A mantissa that fits already is not shifted. -/
theorem shiftToTargetExponent_of_lt {m : ℕ} {e : ℤ} (hm : m < 2 ^ 53) (he : -1074 ≤ e) :
    UnpackedFloat.shiftToTargetExponent .binary64 m e .exact = (⟨m, false, false⟩, e) := by
  have hlog : m.log2 ≤ 52 := by
    by_cases hzero : m = 0
    · rw [hzero]
      decide
    · have := (Nat.log2_lt hzero).mpr hm
      omega
  have hshift : (max (m.log2 + e - 52) (-1074) - e).toNat = 0 := by omega
  rw [UnpackedFloat.shiftToTargetExponent, targetExponent_eq, UnpackedFloat.shiftToExponent, hshift]
  exact Prod.ext rfl (add_zero e)

/-- A mantissa that was rounded up to one bit too many is shifted by one. -/
theorem shiftToTargetExponent_two_pow {e : ℤ} (he : -1074 ≤ e) :
    UnpackedFloat.shiftToTargetExponent .binary64 (2 ^ 53) e .exact
      = (⟨2 ^ 52, false, false⟩, e + 1) := by
  have hshift : (max (((2 ^ 53 : ℕ).log2 : ℤ) + e - 52) (-1074) - e).toNat = 1 := by
    rw [Nat.log2_two_pow]
    omega
  rw [UnpackedFloat.shiftToTargetExponent, targetExponent_eq, UnpackedFloat.shiftToExponent, hshift]
  rfl

/-- The second half of rounding: a rounded mantissa is brought into form. -/
def settle (sign : UnpackedFloat.Sign) (rounded : ℕ) (e : ℤ) : UnpackedFloat :=
  let (em, e) := UnpackedFloat.shiftToTargetExponent .binary64 rounded e .exact
  if h : em.mantissa = 0 then .zero sign else .finite sign em.mantissa e (Nat.pos_of_ne_zero h)

/-- Bringing a mantissa into form changes no magnitude. -/
theorem settle_spec (sign : UnpackedFloat.Sign) {rounded : ℕ} {e : ℤ} (hrounded : rounded ≤ 2 ^ 53)
    (he : -1074 ≤ e) (hnormal : 2 ^ 52 ≤ rounded ∨ e = -1074) :
    Canonical (settle sign rounded e) ∧ unpackedMagnitude (settle sign rounded e) = rounded * 2 ^ e := by
  rcases hrounded.lt_or_eq with hlt | rfl
  · rw [settle, shiftToTargetExponent_of_lt hlt he]
    dsimp only
    by_cases hzero : rounded = 0
    · rw [dif_pos hzero, unpackedMagnitude_zero, hzero, Nat.cast_zero, zero_mul]
      exact ⟨trivial, rfl⟩
    · rw [dif_neg hzero]
      exact ⟨⟨hlt, he, hnormal⟩, rfl⟩
  · rw [settle, shiftToTargetExponent_two_pow he]
    refine ⟨⟨by decide, by omega, Or.inl (le_refl _)⟩, ?_⟩
    show ((2 ^ 52 : ℕ) : ℚ) * 2 ^ (e + 1) = ((2 ^ 53 : ℕ) : ℚ) * 2 ^ e
    rw [zpow_add_one₀ (by norm_num : (2 : ℚ) ≠ 0)]
    push_cast
    ring

/-- How much a shift to the target leaves of a mantissa: all fifty-three bits, or less at the least exponent. -/
theorem shifted_mantissa {m n : ℕ} {e : ℤ} (hn : max (m.log2 + e - 52) (-1074) = e + n) :
    m / 2 ^ n < 2 ^ 53 ∧ (2 ^ 52 ≤ m / 2 ^ n ∨ e + n = -1074) := by
  have hpos : 0 < 2 ^ n := Nat.two_pow_pos n
  refine ⟨?_, ?_⟩
  · rw [Nat.div_lt_iff_lt_mul hpos, ← Nat.pow_add]
    have hlog : m.log2 + 1 ≤ 53 + n := by omega
    exact Nat.lt_log2_self.trans_le (Nat.pow_le_pow_right (by decide) hlog)
  · by_cases hleast : e + n = -1074
    · exact Or.inr hleast
    · have hlog : m.log2 = 52 + n := by omega
      have hne : m ≠ 0 := by
        rintro rfl
        simp at hlog
        omega
      refine Or.inl ?_
      rw [Nat.le_div_iff_mul_le hpos, ← Nat.pow_add, ← hlog]
      exact Nat.log2_self_le hne

/-- A mantissa that was shifted to the target and rounded is within every bound that is a magnitude. -/
theorem roundedMantissa_mul_le {em : ExtendedMantissa} {q y : ℚ} {t : ℤ} (hbelow : Below em q)
    (hnormal : 2 ^ 52 ≤ em.mantissa ∨ t = -1074) (hy : IsMagnitude y) (hle : q * 2 ^ t ≤ y) :
    (em.roundedMantissa : ℚ) * 2 ^ t ≤ y := by
  have htwo : (2 : ℚ) ≠ 0 := by norm_num
  obtain ⟨M, E, hM, hE, _, rfl⟩ := hy
  by_cases hexp : t ≤ E
  · -- the bound is a whole number of units
    obtain ⟨k, rfl⟩ : ∃ k : ℕ, E = t + k := ⟨(E - t).toNat, by omega⟩
    have hbound : (M : ℚ) * 2 ^ (t + k) = (M * 2 ^ k : ℕ) * 2 ^ t := by
      rw [zpow_add₀ htwo, zpow_natCast]
      push_cast
      ring
    have hpos : (0 : ℚ) < 2 ^ t := by positivity
    rw [hbound] at hle ⊢
    have hq : q ≤ (M * 2 ^ k : ℕ) := le_of_mul_le_mul_right hle hpos
    have hrounded : (em.roundedMantissa : ℚ) ≤ (M * 2 ^ k : ℕ) := by
      exact_mod_cast hbelow.roundedMantissa_le hq
    gcongr
  · -- the mantissa is so large that the number would be beyond the bound
    exfalso
    have hlarge : 2 ^ 52 ≤ em.mantissa := hnormal.resolve_right (by omega)
    have hlarge : (2 : ℚ) ^ 52 ≤ em.mantissa := by exact_mod_cast hlarge
    have hM : (M : ℚ) < 2 ^ 53 := by exact_mod_cast hM
    have hpos : (0 : ℚ) < 2 ^ E := by positivity
    have hstep : (2 : ℚ) ^ (E + 1) ≤ 2 ^ t := by
      apply zpow_le_zpow_right₀ (by norm_num)
      omega
    have hbeyond : (2 : ℚ) ^ 53 * 2 ^ E ≤ q * 2 ^ t := by
      calc (2 : ℚ) ^ 53 * 2 ^ E = 2 ^ 52 * 2 ^ (E + 1) := by
            rw [zpow_add_one₀ htwo]
            ring
        _ ≤ q * 2 ^ t := by
            have hq : (2 : ℚ) ^ 52 ≤ q := hlarge.trans hbelow.le
            gcongr
    have hshort : (M : ℚ) * 2 ^ E < 2 ^ 53 * 2 ^ E := by gcongr
    linarith

/-- A rounded result in parts: the mantissa was shifted to the right until it fits, and its rounded form was
brought into form again, which changes nothing. -/
theorem roundWithAccuracy_parts (sign : UnpackedFloat.Sign) {m : ℕ} {e : ℤ} (accuracy : Accuracy)
    (hfits : 2 ^ 52 ≤ m ∨ e ≤ -1074) :
    ∃ n : ℕ, let em := ExtendedMantissa.ofMantissaAndAccuracy m accuracy >>> n
      let rounded := UnpackedFloat.roundWithAccuracy .binary64 sign m e accuracy
      em.mantissa < 2 ^ 53 ∧ -1074 ≤ e + n ∧ (2 ^ 52 ≤ em.mantissa ∨ e + n = -1074)
        ∧ rounded = settle sign em.roundedMantissa (e + n)
        ∧ Canonical rounded ∧ unpackedMagnitude rounded = em.roundedMantissa * 2 ^ (e + n) := by
  have hlog : 2 ^ 52 ≤ m → 52 ≤ m.log2 := fun h => (Nat.le_log2 (by omega)).mpr h
  -- the target is never to the left of the exponent, so that nothing but a shift to the right happens
  obtain ⟨n, hn⟩ : ∃ n : ℕ, max (m.log2 + e - 52) (-1074) = e + n := by
    refine ⟨(max (m.log2 + e - 52) (-1074) - e).toNat, ?_⟩
    omega
  refine ⟨n, ?_⟩
  intro em rounded
  have hround : rounded = settle sign em.roundedMantissa (e + n) := by
    have hshift : (e + n - e).toNat = n := by omega
    show UnpackedFloat.roundWithAccuracy .binary64 sign m e accuracy = _
    rw [UnpackedFloat.roundWithAccuracy, UnpackedFloat.shiftToTargetExponent, targetExponent_eq, hn,
      UnpackedFloat.shiftToExponent, hshift]
    rfl
  have hmantissa : em.mantissa = m / 2 ^ n := by
    rw [mantissa_shiftRight, mantissa_ofMantissaAndAccuracy]
  obtain ⟨hshort, hnormal⟩ := shifted_mantissa hn
  rw [← hmantissa] at hshort hnormal
  obtain ⟨hlower, hupper⟩ := mantissa_le_roundedMantissa em
  have hleast : -1074 ≤ e + n := by omega
  rw [hround]
  exact ⟨hshort, hleast, hnormal, rfl,
    settle_spec sign (by omega) hleast (hnormal.imp_left fun h => h.trans hlower)⟩

/-- **A rounded result does not get past the magnitude of a double.** The number to be rounded is
`q * 2 ^ e`, and `m` is as much of `q` as is known, with the rest told by the accuracy. -/
theorem roundWithAccuracy_spec (sign : UnpackedFloat.Sign) {m : ℕ} {e : ℤ} {accuracy : Accuracy}
    {q y : ℚ} (hq : Below (.ofMantissaAndAccuracy m accuracy) q) (hfits : 2 ^ 52 ≤ m ∨ e ≤ -1074)
    (hy : IsMagnitude y) (hle : q * 2 ^ e ≤ y) :
    Canonical (UnpackedFloat.roundWithAccuracy .binary64 sign m e accuracy)
      ∧ unpackedMagnitude (UnpackedFloat.roundWithAccuracy .binary64 sign m e accuracy) ≤ y := by
  obtain ⟨n, -, -, hnormal, -, hcanonical, hmagnitude⟩ := roundWithAccuracy_parts sign accuracy hfits
  have hexact : q / 2 ^ n * 2 ^ (e + n) = q * 2 ^ e := by
    rw [zpow_add₀ (by norm_num : (2 : ℚ) ≠ 0), zpow_natCast]
    field_simp
  refine ⟨hcanonical, ?_⟩
  rw [hmagnitude]
  exact roundedMantissa_mul_le (hq.shiftRight n) hnormal hy (hexact.trans_le hle)

/-- Lowering an exponent changes no magnitude. -/
theorem decreaseExponent_magnitude (m : ℕ) {e t : ℤ} (ht : t ≤ e) :
    (((UnpackedFloat.decreaseExponent m e t).1 : ℕ) : ℚ) * 2 ^ t = m * 2 ^ e := by
  obtain ⟨k, rfl⟩ : ∃ k : ℕ, e = t + k := ⟨(e - t).toNat, by omega⟩
  have hshift : (t + k - t).toNat = k := by omega
  rw [UnpackedFloat.decreaseExponent, hshift, zpow_add₀ (by norm_num : (2 : ℚ) ≠ 0), zpow_natCast,
    Nat.shiftLeft_eq]
  push_cast
  ring

/-- A number that has no bits to lose yet is first shifted to the left, which changes no magnitude. -/
theorem exists_round_eq (sign : UnpackedFloat.Sign) {m : ℕ} (e : ℤ) (hm : m ≠ 0) :
    ∃ (m' : ℕ) (e' : ℤ), UnpackedFloat.round .binary64 sign m e
        = UnpackedFloat.roundWithAccuracy .binary64 sign m' e' .exact
      ∧ (2 ^ 52 ≤ m' ∨ e' ≤ -1074) ∧ (m' : ℚ) * 2 ^ e' = m * 2 ^ e := by
  set k := (e - max (m.log2 + e - 52) (-1074)).toNat with hk
  refine ⟨m <<< k, e - k, ?_, ?_, ?_⟩
  · rw [UnpackedFloat.round, targetExponent_eq, UnpackedFloat.decreaseExponent]
  · rw [Nat.shiftLeft_eq]
    by_cases hleast : e - k ≤ -1074
    · exact Or.inr hleast
    · -- the exponent did not get down to the least one, so that the mantissa is full
      have hlog : 52 ≤ m.log2 + k := by omega
      refine Or.inl ?_
      calc 2 ^ 52 ≤ 2 ^ (m.log2 + k) := Nat.pow_le_pow_right (by decide) hlog
        _ = 2 ^ m.log2 * 2 ^ k := Nat.pow_add ..
        _ ≤ m * 2 ^ k := Nat.mul_le_mul_right _ (Nat.log2_self_le hm)
  · rw [zpow_sub₀ (by norm_num : (2 : ℚ) ≠ 0), zpow_natCast, Nat.shiftLeft_eq]
    push_cast
    field_simp

theorem round_spec (sign : UnpackedFloat.Sign) {m : ℕ} {e : ℤ} {y : ℚ} (hm : m ≠ 0) (hy : IsMagnitude y)
    (hle : (m : ℚ) * 2 ^ e ≤ y) :
    Canonical (UnpackedFloat.round .binary64 sign m e)
      ∧ unpackedMagnitude (UnpackedFloat.round .binary64 sign m e) ≤ y := by
  obtain ⟨m', e', hround, hfits, hmagnitude⟩ := exists_round_eq sign e hm
  rw [hround]
  exact roundWithAccuracy_spec sign (Below.ofExact _) hfits hy (hmagnitude.trans_le hle)

theorem normalize_spec {m : ℤ} {e : ℤ} {y : ℚ} (zeroSign : UnpackedFloat.Sign) (hy : IsMagnitude y)
    (hle : |(m : ℚ)| * 2 ^ e ≤ y) :
    Canonical (UnpackedFloat.normalize .binary64 m e zeroSign)
      ∧ unpackedMagnitude (UnpackedFloat.normalize .binary64 m e zeroSign) ≤ y := by
  have hpos : (0 : ℚ) < 2 ^ e := by positivity
  rw [UnpackedFloat.normalize]
  rcases lt_trichotomy m 0 with hm | rfl | hm
  · have habs : (((-m).toNat : ℕ) : ℚ) = |(m : ℚ)| := by
      have hcast : ((-m).toNat : ℤ) = -m := Int.toNat_of_nonneg (by omega)
      have hneg : (m : ℚ) < 0 := by exact_mod_cast hm
      rw [abs_of_neg hneg]
      exact_mod_cast hcast
    rw [compare_lt_iff_lt.mpr hm]
    exact round_spec .negative (by omega) hy (by rwa [habs])
  · have hzero : (0 : ℚ) ≤ y := by simpa using hle
    exact ⟨trivial, hzero⟩
  · have habs : ((m.toNat : ℕ) : ℚ) = |(m : ℚ)| := by
      have hcast : (m.toNat : ℤ) = m := Int.toNat_of_nonneg hm.le
      have hpos : (0 : ℚ) < m := by exact_mod_cast hm
      rw [abs_of_pos hpos]
      exact_mod_cast hcast
    rw [compare_gt_iff_gt.mpr hm]
    exact round_spec .positive (by omega) hy (by rwa [habs])

/-! ## Packing -/

/-- What is shifted into the leading place of a mantissa. -/
theorem toNat_implicit_append (f : BitVec 52) : (1#1 ++ f).toNat = 2 ^ 52 + f.toNat := by
  rw [BitVec.toNat_append, ← Nat.shiftLeft_add_eq_or_of_lt f.isLt]
  rfl

theorem sign_packComponents (sign : UnpackedFloat.Sign) (exponent : BitVec 11) (mantissa : BitVec 52) :
    UnpackedFloat.Sign.ofBitVec (UnpackedFloat.unpackSign
      (UnpackedFloat.packComponents .binary64 sign exponent mantissa)) = sign := by
  unfold UnpackedFloat.unpackSign
  simp only [UnpackedFloat.packComponents, BitVec.extractLsb]
  rw [BitVec.extractLsb'_append_eq_of_le (by omega), BitVec.extractLsb'_append_eq_of_le (by omega)]
  cases sign <;> rfl

/-- A number in form within the magnitude of a double has the exponent of a double. -/
theorem exponent_le {sign : UnpackedFloat.Sign} {m : ℕ} {e : ℤ} {hm : 0 < m} {y : ℚ}
    (hu : Canonical (.finite sign m e hm)) (hy : IsMagnitude y)
    (hle : unpackedMagnitude (.finite sign m e hm) ≤ y) : e ≤ 971 := by
  obtain ⟨_, _, hnormal⟩ := hu
  by_contra hexp
  have hfull : 2 ^ 52 ≤ m := hnormal.resolve_right (by omega)
  have hfull : (2 : ℚ) ^ 52 ≤ m := by exact_mod_cast hfull
  have hpow : (2 : ℚ) ^ (972 : ℤ) ≤ 2 ^ e := zpow_le_zpow_right₀ (by norm_num) (by omega)
  have hlarge : (2 : ℚ) ^ (1024 : ℤ) ≤ m * 2 ^ e := by
    calc (2 : ℚ) ^ (1024 : ℤ) = 2 ^ 52 * 2 ^ (972 : ℤ) := by
          rw [← zpow_natCast, ← zpow_add₀ (by norm_num : (2 : ℚ) ≠ 0)]
          rfl
      _ ≤ m * 2 ^ e := by gcongr
  exact absurd (hlarge.trans hle) (not_le.mpr hy.lt)

/-- A full mantissa is packed without its leading bit, and with the exponent that belongs to it. -/
theorem unpack_pack_normal (sign : UnpackedFloat.Sign) {m : ℕ} {e : ℤ} (hm : 0 < m)
    (hfull : 2 ^ 52 ≤ m) (hshort : m < 2 ^ 53) (hleast : -1074 ≤ e) (he : e ≤ 971) :
    UnpackedFloat.unpack .binary64 (UnpackedFloat.pack .binary64 (.finite sign m e hm))
      = .finite sign m e hm := by
  obtain ⟨field, hfield⟩ : ∃ field : ℕ, e + 1023 + 52 = field := ⟨(e + 1075).toNat, by omega⟩
  have hlog : m.log2 + 1 = 53 := by
    have hlow := (Nat.le_log2 hm.ne').mpr hfull
    have hhigh := (Nat.log2_lt hm.ne').mpr hshort
    omega
  have hpack : UnpackedFloat.pack .binary64 (.finite sign m e hm)
      = UnpackedFloat.packComponents .binary64 sign (BitVec.ofNat 11 field) (BitVec.ofNat 52 m) := by
    show (if 2 ^ 11 ≤ (e + 1023 + 52).toNat + 1 then UnpackedFloat.packedInfinity .binary64 sign
      else if m.log2 + 1 = 53 then UnpackedFloat.packComponents .binary64 sign
        (BitVec.ofNat 11 (e + 1023 + 52).toNat) (BitVec.ofNat 52 m) else _) = _
    rw [hfield, Int.toNat_natCast, if_neg (by omega), if_pos hlog]
  have hexponent : (BitVec.ofNat 11 field).toNat = field := Nat.mod_eq_of_lt (by omega)
  -- the stored exponent is neither of the two that mean something else
  have hfinite : BitVec.ofNat 11 field ≠ -1#11 := by
    intro h
    have h := congrArg BitVec.toNat h
    rw [hexponent] at h
    have hmax : (-1#11).toNat = 2047 := rfl
    omega
  have hpositive : BitVec.ofNat 11 field ≠ 0#11 := by
    intro h
    have h := congrArg BitVec.toNat h
    rw [hexponent] at h
    have hmin : (0#11).toNat = 0 := rfl
    omega
  -- the leading bit is cut off by packing and put back by unpacking
  have hmantissa : (1#1 ++ BitVec.ofNat 52 m).toNat = m := by
    rw [toNat_implicit_append, BitVec.toNat_ofNat]
    omega
  rw [hpack]
  unfold UnpackedFloat.unpack
  rw [UnpackedFloat.unpackExponent_packComponents, if_neg hfinite, if_neg hpositive]
  refine (UnpackedFloat.finite.injEq ..).mpr ⟨sign_packComponents _ _ _, ?_, ?_⟩
  · rw [UnpackedFloat.unpackMantissa_packComponents, hmantissa]
  · rw [hexponent]
    show (field : ℤ) - (1023 + 52) = e
    omega

/-- At the least exponent a mantissa that is not full is packed as it is. -/
theorem unpack_pack_subnormal (sign : UnpackedFloat.Sign) {m : ℕ} (hm : 0 < m) (hshort : m < 2 ^ 52) :
    UnpackedFloat.unpack .binary64 (UnpackedFloat.pack .binary64 (.finite sign m (-1074) hm))
      = .finite sign m (-1074) hm := by
  have hlog : m.log2 + 1 ≠ 53 := by
    have hhigh := (Nat.log2_lt hm.ne').mpr hshort
    omega
  have hpack : UnpackedFloat.pack .binary64 (.finite sign m (-1074) hm)
      = UnpackedFloat.packComponents .binary64 sign 0#11 (BitVec.ofNat 52 m) := by
    show (if m.log2 + 1 = 53 then _ else _) = _
    rw [if_neg hlog]
  -- the exponent is stored as zero, so that no leading bit is put back
  have hmantissa : (BitVec.ofNat 52 m).toNat = m := Nat.mod_eq_of_lt hshort
  have hpositive : BitVec.ofNat 52 m ≠ 0#52 := by
    intro h
    have h := congrArg BitVec.toNat h
    rw [hmantissa] at h
    exact hm.ne' h
  rw [hpack]
  unfold UnpackedFloat.unpack
  rw [UnpackedFloat.unpackExponent_packComponents, if_neg (by decide), if_pos rfl, dif_neg]
  · refine (UnpackedFloat.finite.injEq ..).mpr ⟨sign_packComponents _ _ _, ?_, rfl⟩
    rw [UnpackedFloat.unpackMantissa_packComponents, hmantissa]
  · rw [UnpackedFloat.unpackMantissa_packComponents]
    exact hpositive

/-- **Packing loses nothing** of a number in form that is within the magnitude of a double. -/
theorem unpack_pack {u : UnpackedFloat} {y : ℚ} (hu : Canonical u) (hy : IsMagnitude y)
    (hle : unpackedMagnitude u ≤ y) : (Float.Model.pack u).unpack = u := by
  cases hu using Canonical.cases with
  | zero sign => cases sign <;> rfl
  | finite sign m e hm hu =>
      have he := exponent_le hu hy hle
      obtain ⟨hshort, hleast, hnormal⟩ := hu
      by_cases hfull : 2 ^ 52 ≤ m
      · exact unpack_pack_normal sign hm hfull hshort hleast he
      · obtain rfl := hnormal.resolve_left hfull
        exact unpack_pack_subnormal sign hm (not_le.mp hfull)

end Appraisal.Binary64
