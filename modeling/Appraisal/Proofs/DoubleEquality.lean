/-
Which doubles compare equal.

A double that is a number compares equal to itself, and the two zeros compare equal to each other. Nothing else
does: the sign, the mantissa and the exponent of a number are compared one by one, and together they are all of
its bits. The two zeros are different doubles with different texts.
-/
import Appraisal.Proofs.DoubleRange

set_option autoImplicit false

namespace Appraisal.Binary64

open Float.Model

/-! ## The parts of a number are all of it -/

/-- The bits of a double, from the sign, the exponent field and the fraction. -/
theorem toNat_toBits_eq (x : Float) :
    x.toBits.toNat = (if 2 ^ 63 ≤ x.toBits.toNat then 1 else 0) * 2 ^ 63
      + x.toBits.toNat / 2 ^ 52 % 2 ^ 11 * 2 ^ 52 + x.toBits.toNat % 2 ^ 52 := by
  have hbits := x.toBits.toNat_lt
  split_ifs <;> omega

theorem float_eq_of_toBits {x y : Float} (h : x.toBits.toNat = y.toBits.toNat) : x = y := by
  obtain ⟨⟨a, ha⟩⟩ := x
  obtain ⟨⟨b, hb⟩⟩ := y
  obtain rfl : a = b := UInt64.toNat_inj.mp h
  rfl

/-- Two numbers with the same parts are the same double. -/
theorem eq_of_shape_eq {x y : Float} (hx : isFinite x = true) (h : shape x = shape y) : x = y := by
  apply float_eq_of_toBits
  rw [toNat_toBits_eq x, toNat_toBits_eq y]
  have hshape : ∀ z : Float, shape z =
      if z.toBits.toNat / 2 ^ 52 % 2 ^ 11 = 2047 then
        if z.toBits.toNat % 2 ^ 52 = 0 then .infinite (decide (2 ^ 63 ≤ z.toBits.toNat)) else .notANumber
      else if z.toBits.toNat / 2 ^ 52 % 2 ^ 11 = 0 then
        .finite (decide (2 ^ 63 ≤ z.toBits.toNat)) (z.toBits.toNat % 2 ^ 52) (-1074)
      else
        .finite (decide (2 ^ 63 ≤ z.toBits.toNat)) (2 ^ 52 + z.toBits.toNat % 2 ^ 52)
          ((z.toBits.toNat / 2 ^ 52 % 2 ^ 11 : ℕ) - 1075) := fun _ => rfl
  have hfraction : ∀ z : Float, z.toBits.toNat % 2 ^ 52 < 2 ^ 52 := fun z => Nat.mod_lt _ (by decide)
  have hx' := hfraction x
  have hy' := hfraction y
  rw [isFinite] at hx
  rw [hshape x] at hx
  rw [hshape x, hshape y] at h
  generalize x.toBits.toNat / 2 ^ 52 % 2 ^ 11 = field at *
  generalize x.toBits.toNat % 2 ^ 52 = fraction at *
  generalize y.toBits.toNat / 2 ^ 52 % 2 ^ 11 = field' at *
  generalize y.toBits.toNat % 2 ^ 52 = fraction' at *
  -- an infinity and a NaN are no numbers; of the numbers, only the smallest ones have no implicit bit
  split_ifs at h hx <;> simp_all
  omega

/-- Whatever bits are unpacked to, the sign is that of the first bit. -/
theorem unpack_cases (bits : BitVec 64) :
    match UnpackedFloat.unpack .binary64 bits with
    | .zero sign | .finite sign _ _ _ =>
      sign = UnpackedFloat.Sign.ofBitVec (@UnpackedFloat.unpackSign .binary64 bits)
    | .infinity _ | .notANumber => True := by
  unfold UnpackedFloat.unpack
  dsimp only
  by_cases hones : @UnpackedFloat.unpackExponent .binary64 bits = -1#11
  · rw [if_pos hones]
    by_cases hempty : @UnpackedFloat.unpackMantissa .binary64 bits = 0#52
    · rw [if_pos hempty]
      trivial
    · rw [if_neg hempty]
      trivial
  · rw [if_neg hones]
    by_cases hzeros : @UnpackedFloat.unpackExponent .binary64 bits = 0#11
    · rw [if_pos hzeros]
      by_cases hempty : @UnpackedFloat.unpackMantissa .binary64 bits = 0#52
      · rw [dif_pos hempty]
      · rw [dif_neg hempty]
    · rw [if_neg hzeros]

/-- The sign that a number is unpacked with is that of its bits. -/
theorem negative_unpack {x : Float} {sign : UnpackedFloat.Sign} (h : x.toModel.unpack = .zero sign
      ∨ ∃ m e hm, x.toModel.unpack = .finite sign m e hm) :
    sign = .negative ↔ 2 ^ 63 ≤ x.toBits.toNat := by
  have hbits := x.toBits.toNat_lt
  have hsign : (@UnpackedFloat.unpackSign .binary64 x.toModel.toBits.toBitVec).toNat
      = x.toBits.toNat / 2 ^ 63 % 2 := by
    have hmodel : x.toBits = x.toModel.toBits := rfl
    unfold UnpackedFloat.unpackSign
    simp [hmodel, BitVec.extractLsb_toNat, Nat.shiftRight_eq_div_pow]
  -- every way of unpacking takes the sign from the first bit
  have hunpack : sign
      = UnpackedFloat.Sign.ofBitVec (@UnpackedFloat.unpackSign .binary64 x.toModel.toBits.toBitVec) := by
    have hmodel : x.toModel.unpack = UnpackedFloat.unpack .binary64 x.toModel.toBits.toBitVec := rfl
    have hall := unpack_cases x.toModel.toBits.toBitVec
    rw [← hmodel] at hall
    obtain h | ⟨m, e, hm, h⟩ := h
    · rw [h] at hall
      exact hall
    · rw [h] at hall
      exact hall
  rw [hunpack, UnpackedFloat.Sign.ofBitVec]
  split_ifs with hzero
  · rw [hzero] at hsign
    simp only [false_iff]
    simp at hsign
    omega
  · rw [← BitVec.toNat_inj, hsign] at hzero
    simp at hzero ⊢
    omega

/-- What a number is unpacked to, sign and all. -/
theorem unpack_of_shape_finite {x : Float} {negative : Bool} {m : ℕ} {e : ℤ}
    (h : shape x = .finite negative m e) :
    (m = 0 ∧ e = -1074 ∧ ∃ sign, x.toModel.unpack = .zero sign)
      ∨ ∃ hm, x.toModel.unpack = .finite (if negative then .negative else .positive) m e hm := by
  have hnegative : negative = decide (2 ^ 63 ≤ x.toBits.toNat) := by
    rw [shape] at h
    split_ifs at h <;> exact (Shape.finite.inj h).1.symm
  obtain ⟨-, -, -, hnormal⟩ := bounds_of_shape h
  obtain ⟨sign, ⟨hm, hzero⟩ | ⟨hm, hfinite⟩⟩ := unpack_eq_of_shape h
  · exact Or.inl ⟨hm, by omega, sign, hzero⟩
  · right
    have hsign := negative_unpack (Or.inr ⟨m, e, hm, hfinite⟩)
    have hsame : sign = if negative then .negative else .positive := by
      simp only [hnegative, decide_eq_true_eq]
      split_ifs with hbits
      · exact hsign.mpr hbits
      · cases sign with
        | negative => exact absurd (hsign.mp rfl) hbits
        | positive => rfl
    exact ⟨hm, hsame ▸ hfinite⟩

/-! ## Comparing -/

/-- One of the two doubles is zero and the other one is the zero with a minus. -/
def OppositeZeros (x y : Float) : Prop :=
  (x = 0.0 ∧ y = -0.0) ∨ (x = -0.0 ∧ y = 0.0)

theorem eq_zero_of_shape {x : Float} {negative : Bool} {e : ℤ} (h : shape x = .finite negative 0 e)
    (he : e = -1074) : x = if negative then -0.0 else 0.0 := by
  apply eq_of_shape_eq (isFinite_of_shape h)
  rw [h, he]
  cases negative <;> decide +kernel

/-- The two zeros are two doubles. -/
theorem zero_ne_negative_zero : (0.0 : Float) ≠ -0.0 := by
  intro h
  have hshape := congrArg shape h
  revert hshape
  decide +kernel

/-- A zero compares equal to no other number. -/
theorem compare_zero_finite_ne {s s' : UnpackedFloat.Sign} {m : ℕ} {e : ℤ} {hm : 0 < m} :
    UnpackedFloat.compare (.zero s) (.finite s' m e hm) ≠ some .eq
      ∧ UnpackedFloat.compare (.finite s' m e hm) (.zero s) ≠ some .eq := by
  cases s' <;> refine ⟨?_, ?_⟩ <;> rintro ⟨⟩

/-- The signs, the exponents and the mantissas of other numbers are compared one by one. -/
theorem parts_eq_of_compare {s s' : UnpackedFloat.Sign} {m m' : ℕ} {e e' : ℤ} {hm : 0 < m} {hm' : 0 < m'}
    (h : UnpackedFloat.compare (.finite s m e hm) (.finite s' m' e' hm') = some .eq) :
    s = s' ∧ m = m' ∧ e = e' := by
  have hparts : (compare e e').then (compare m m') = .eq → m = m' ∧ e = e' := by
    rw [Ordering.then_eq_eq, compare_eq_iff_eq, compare_eq_iff_eq]
    exact And.symm
  cases s with
  | positive =>
      cases s' with
      | positive => exact ⟨rfl, hparts (Option.some.inj h)⟩
      | negative => cases h
  | negative =>
      cases s' with
      | positive => cases h
      | negative => exact ⟨rfl, hparts (Ordering.swap_eq_eq.mp (Option.some.inj h))⟩

/-- **Two numbers that compare equal are the same double, or they are the two zeros.** -/
theorem eq_or_oppositeZeros_of_beq {x y : Float} (hx : isFinite x = true) (hy : isFinite y = true)
    (h : (x == y) = true) : x = y ∨ OppositeZeros x y := by
  have hcompare : x.toModel.unpack.compare y.toModel.unpack = some .eq := by
    have hbeq : (x == y) = (x.toModel.unpack.compare y.toModel.unpack == some .eq) := rfl
    rw [hbeq] at h
    exact eq_of_beq h
  obtain ⟨n, m, e, hshape⟩ := isFinite_iff_shape.mp hx
  obtain ⟨n', m', e', hshape'⟩ := isFinite_iff_shape.mp hy
  rcases unpack_of_shape_finite hshape with ⟨rfl, he, s, hunpack⟩ | ⟨hm, hunpack⟩ <;>
    rcases unpack_of_shape_finite hshape' with ⟨rfl, he', s', hunpack'⟩ | ⟨hm', hunpack'⟩
  · -- two zeros
    have hzero := eq_zero_of_shape hshape he
    have hzero' := eq_zero_of_shape hshape' he'
    cases n <;> cases n' <;> simp_all [OppositeZeros]
  · rw [hunpack, hunpack'] at hcompare
    exact absurd hcompare compare_zero_finite_ne.1
  · rw [hunpack, hunpack'] at hcompare
    exact absurd hcompare compare_zero_finite_ne.2
  · rw [hunpack, hunpack'] at hcompare
    obtain ⟨hsign, rfl, rfl⟩ := parts_eq_of_compare hcompare
    have hsame : n = n' := by
      cases n <;> cases n' <;> first | rfl | cases hsign
    exact Or.inl (eq_of_shape_eq hx (by rw [hshape, hshape', hsame]))

end Appraisal.Binary64
