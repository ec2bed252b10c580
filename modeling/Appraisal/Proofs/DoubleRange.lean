/-
Arithmetic on doubles that stays in range.

An operation whose exact result is within the magnitude of a double gives a finite double within the same
magnitude. For products and quotients that is all there is to it, whatever the signs. A difference of numbers
that are not negative is within the larger of them, and rounding to a whole number stays within every bound
that is so large that all doubles beyond it are whole.
-/
import Appraisal.Decimal.Binary64
import Appraisal.Proofs.DoubleRounding

set_option autoImplicit false

namespace Appraisal.Binary64

open Float.Model

/-! ## Doubles -/

/-- The magnitude of a double; what is not finite has none. -/
def magnitude (x : Float) : ℚ :=
  unpackedMagnitude x.toModel.unpack

theorem toNat_unpackExponent (b : BitVec 64) :
    (@UnpackedFloat.unpackExponent .binary64 b).toNat = b.toNat / 2 ^ 52 % 2 ^ 11 := by
  simp [UnpackedFloat.unpackExponent, BitVec.extractLsb_toNat, Nat.shiftRight_eq_div_pow]

theorem toNat_unpackMantissa (b : BitVec 64) :
    (@UnpackedFloat.unpackMantissa .binary64 b).toNat = b.toNat % 2 ^ 52 := by
  simp [UnpackedFloat.unpackMantissa, BitVec.extractLsb_toNat]

/-! The three tests of the unpacking, as tests of the two fields. -/

theorem unpackExponent_eq_ones_iff (b : BitVec 64) :
    @UnpackedFloat.unpackExponent .binary64 b = -1#11 ↔ b.toNat / 2 ^ 52 % 2 ^ 11 = 2047 := by
  rw [← BitVec.toNat_inj, toNat_unpackExponent]
  rfl

theorem unpackExponent_eq_zero_iff (b : BitVec 64) :
    @UnpackedFloat.unpackExponent .binary64 b = 0#11 ↔ b.toNat / 2 ^ 52 % 2 ^ 11 = 0 := by
  rw [← BitVec.toNat_inj, toNat_unpackExponent]
  rfl

theorem unpackMantissa_eq_zero_iff (b : BitVec 64) :
    @UnpackedFloat.unpackMantissa .binary64 b = 0#52 ↔ b.toNat % 2 ^ 52 = 0 := by
  rw [← BitVec.toNat_inj, toNat_unpackMantissa]
  rfl

theorem finite_congr {sign : UnpackedFloat.Sign} {m m' : ℕ} {e e' : ℤ} (hm : 0 < m) (hmantissa : m = m')
    (hexponent : e = e') :
    ∃ hm', UnpackedFloat.finite sign m e hm = UnpackedFloat.finite sign m' e' hm' := by
  subst hmantissa hexponent
  exact ⟨hm, rfl⟩

/-- The parts of a double are those of the number that it is unpacked to. -/
theorem unpack_of_shape (x : Float) :
    match shape x with
    | .finite _ m e => (m < 2 ^ 53 ∧ -1074 ≤ e ∧ e ≤ 971 ∧ (2 ^ 52 ≤ m ∨ e = -1074))
        ∧ ∃ sign, (m = 0 ∧ x.toModel.unpack = .zero sign)
          ∨ ∃ hm, x.toModel.unpack = .finite sign m e hm
    | _ => ¬Canonical x.toModel.unpack := by
  have hshape : shape x =
      if x.toModel.toBits.toBitVec.toNat / 2 ^ 52 % 2 ^ 11 = 2047 then
        if x.toModel.toBits.toBitVec.toNat % 2 ^ 52 = 0 then .infinite _ else .notANumber
      else if x.toModel.toBits.toBitVec.toNat / 2 ^ 52 % 2 ^ 11 = 0 then
        .finite _ (x.toModel.toBits.toBitVec.toNat % 2 ^ 52) (-1074)
      else
        .finite _ (2 ^ 52 + x.toModel.toBits.toBitVec.toNat % 2 ^ 52)
          ((x.toModel.toBits.toBitVec.toNat / 2 ^ 52 % 2 ^ 11 : ℕ) - 1075) := rfl
  have hunpack : x.toModel.unpack = UnpackedFloat.unpack .binary64 x.toModel.toBits.toBitVec := rfl
  unfold UnpackedFloat.unpack at hunpack
  have hones := unpackExponent_eq_ones_iff x.toModel.toBits.toBitVec
  have hzeros := unpackExponent_eq_zero_iff x.toModel.toBits.toBitVec
  have hempty := unpackMantissa_eq_zero_iff x.toModel.toBits.toBitVec
  have hexponent := toNat_unpackExponent x.toModel.toBits.toBitVec
  have hmantissa := toNat_unpackMantissa x.toModel.toBits.toBitVec
  have hfield : x.toModel.toBits.toBitVec.toNat / 2 ^ 52 % 2 ^ 11 < 2 ^ 11 := Nat.mod_lt _ (by decide)
  have hfraction : x.toModel.toBits.toBitVec.toNat % 2 ^ 52 < 2 ^ 52 := Nat.mod_lt _ (by decide)
  have hfull : (1#1 ++ @UnpackedFloat.unpackMantissa .binary64 x.toModel.toBits.toBitVec).toNat
      = 2 ^ 52 + x.toModel.toBits.toBitVec.toNat % 2 ^ 52 := by
    rw [toNat_implicit_append, hmantissa]
  rw [hshape]
  generalize x.toModel.toBits.toBitVec.toNat / 2 ^ 52 % 2 ^ 11 = field at *
  generalize x.toModel.toBits.toBitVec.toNat % 2 ^ 52 = fraction at *
  by_cases hspecial : field = 2047
  · -- an infinity or no number
    rw [if_pos (hones.mpr hspecial)] at hunpack
    rw [if_pos hspecial]
    by_cases hfraction : fraction = 0
    · rw [if_pos (hempty.mpr hfraction)] at hunpack
      rw [if_pos hfraction, hunpack]
      exact id
    · rw [if_neg (mt hempty.mp hfraction)] at hunpack
      rw [if_neg hfraction, hunpack]
      exact id
  · rw [if_neg (mt hones.mp hspecial)] at hunpack
    rw [if_neg hspecial]
    by_cases hleast : field = 0
    · rw [if_pos (hzeros.mpr hleast)] at hunpack
      rw [if_pos hleast]
      refine ⟨⟨by omega, by omega, by omega, Or.inr rfl⟩, ?_⟩
      by_cases hzero : fraction = 0
      · rw [dif_pos (hempty.mpr hzero)] at hunpack
        exact ⟨_, Or.inl ⟨hzero, hunpack⟩⟩
      · rw [dif_neg (mt hempty.mp hzero)] at hunpack
        rw [hunpack]
        exact ⟨_, Or.inr (finite_congr _ hmantissa
          (by rw [hexponent]; show (field : ℤ) - (1023 + 52) + 1 = _; omega))⟩
    · rw [if_neg (mt hzeros.mp hleast)] at hunpack
      rw [if_neg hleast]
      refine ⟨⟨by omega, by omega, by omega, Or.inl (by omega)⟩, ?_⟩
      rw [hunpack]
      exact ⟨_, Or.inr (finite_congr _ hfull
        (by rw [hexponent]; show (field : ℤ) - (1023 + 52) = _; omega))⟩

/-- A double is finite exactly when it is unpacked to a number in form. -/
theorem canonical_unpack_iff (x : Float) : Canonical x.toModel.unpack ↔ isFinite x = true := by
  have hshape := unpack_of_shape x
  rw [isFinite]
  cases h : shape x with
  | notANumber => simpa [h] using hshape
  | infinite negative => simpa [h] using hshape
  | finite negative m e =>
      rw [h] at hshape
      obtain ⟨⟨hshort, hleast, _, hnormal⟩, sign, ⟨_, hzero⟩ | ⟨hm, hfinite⟩⟩ := hshape
      · rw [hzero]
        exact iff_of_true trivial rfl
      · rw [hfinite]
        exact iff_of_true ⟨hshort, hleast, hnormal⟩ rfl

section Parts

variable {x : Float} {negative : Bool} {m : ℕ} {e : ℤ}

/-- The parts of a number are in range, and only the smallest numbers are not full. -/
theorem bounds_of_shape (h : shape x = .finite negative m e) :
    m < 2 ^ 53 ∧ -1074 ≤ e ∧ e ≤ 971 ∧ (2 ^ 52 ≤ m ∨ e = -1074) := by
  have hshape := unpack_of_shape x
  rw [h] at hshape
  exact hshape.1

theorem unpack_eq_of_shape (h : shape x = .finite negative m e) :
    ∃ sign, (m = 0 ∧ x.toModel.unpack = .zero sign) ∨ ∃ hm, x.toModel.unpack = .finite sign m e hm := by
  have hshape := unpack_of_shape x
  rw [h] at hshape
  exact hshape.2

theorem magnitude_of_shape (h : shape x = .finite negative m e) : magnitude x = m * 2 ^ e := by
  obtain ⟨sign, ⟨rfl, hzero⟩ | ⟨hm, hfinite⟩⟩ := unpack_eq_of_shape h
  · rw [magnitude, hzero, unpackedMagnitude_zero, Nat.cast_zero, zero_mul]
  · rw [magnitude, hfinite, unpackedMagnitude_finite]

end Parts

theorem shape_hundred : shape 100.0 = .finite false (100 * 2 ^ 46) (-46) := by
  decide

theorem isMagnitude_magnitude {x : Float} (hx : isFinite x = true) : IsMagnitude (magnitude x) := by
  obtain ⟨negative, m, e, h⟩ := isFinite_iff_shape.mp hx
  obtain ⟨hshort, hleast, he, -⟩ := bounds_of_shape h
  exact ⟨m, e, hshort, hleast, he, magnitude_of_shape h⟩

theorem magnitude_nonneg (x : Float) : 0 ≤ magnitude x := by
  rw [magnitude]
  cases x.toModel.unpack with
  | finite sign m e hm => exact mul_nonneg (Nat.cast_nonneg m) (by positivity)
  | infinity | notANumber | zero => exact le_refl 0

/-- A number in form within the magnitude of a double is packed to a finite double. -/
theorem ofModel_pack_spec {u : UnpackedFloat} {y : ℚ} (hu : Canonical u) (hy : IsMagnitude y)
    (hle : unpackedMagnitude u ≤ y) :
    isFinite (.ofModel (.pack u)) = true ∧ magnitude (.ofModel (.pack u)) ≤ y := by
  have hunpack := unpack_pack hu hy hle
  refine ⟨(canonical_unpack_iff _).mp ?_, ?_⟩
  · rw [hunpack]
    exact hu
  · rw [magnitude, hunpack]
    exact hle

/-! ## Products -/

/-- A product whose mantissa has enough bits, or that is to the right of all doubles. -/
theorem mul_finite_spec (sign sign' : UnpackedFloat.Sign) {m m' : ℕ} {e e' : ℤ} {y : ℚ} (hm : 0 < m)
    (hm' : 0 < m') (hfits : 2 ^ 52 ≤ m * m' ∨ e + e' ≤ -1074) (hy : IsMagnitude y)
    (hle : (m : ℚ) * 2 ^ e * (m' * 2 ^ e') ≤ y) :
    Canonical (UnpackedFloat.mul .binary64 (.finite sign m e hm) (.finite sign' m' e' hm'))
      ∧ unpackedMagnitude (UnpackedFloat.mul .binary64 (.finite sign m e hm) (.finite sign' m' e' hm'))
        ≤ y := by
  have hexact : ((m * m' : ℕ) : ℚ) * 2 ^ (e + e') ≤ y := by
    rw [zpow_add₀ (by norm_num : (2 : ℚ) ≠ 0)]
    push_cast
    calc (m : ℚ) * m' * (2 ^ e * 2 ^ e') = m * 2 ^ e * (m' * 2 ^ e') := by ring
      _ ≤ y := hle
  exact roundWithAccuracy_spec _ (Below.ofExact _) hfits hy hexact

/-- One of two factors in form is full, or both are to the right of all doubles. -/
theorem mul_fits {sign sign' : UnpackedFloat.Sign} {m m' : ℕ} {e e' : ℤ} (hm : 0 < m) (hm' : 0 < m')
    (hu : Canonical (.finite sign m e hm)) (hv : Canonical (.finite sign' m' e' hm')) :
    2 ^ 52 ≤ m * m' ∨ e + e' ≤ -1074 := by
  obtain ⟨_, _, hnormal⟩ := hu
  obtain ⟨_, _, hnormal'⟩ := hv
  rcases hnormal with hfull | hleast
  · exact Or.inl (hfull.trans (Nat.le_mul_of_pos_right m hm'))
  · rcases hnormal' with hfull' | hleast'
    · exact Or.inl (hfull'.trans (Nat.le_mul_of_pos_left m' hm))
    · exact Or.inr (by omega)

/-- A product of two numbers in form. -/
theorem mul_unpacked_spec {u v : UnpackedFloat} {y : ℚ} (hu : Canonical u) (hv : Canonical v)
    (hy : IsMagnitude y) (hle : unpackedMagnitude u * unpackedMagnitude v ≤ y) :
    Canonical (UnpackedFloat.mul .binary64 u v) ∧ unpackedMagnitude (UnpackedFloat.mul .binary64 u v) ≤ y := by
  cases hu using Canonical.cases with
  | zero =>
      cases hv using Canonical.cases with
      | zero => exact ⟨trivial, hy.nonneg⟩
      | finite => exact ⟨trivial, hy.nonneg⟩
  | finite sign m e hm hu =>
      cases hv using Canonical.cases with
      | zero => exact ⟨trivial, hy.nonneg⟩
      | finite sign' m' e' hm' hv =>
          exact mul_finite_spec sign sign' hm hm' (mul_fits hm hm' hu hv) hy hle

/-- A product of finite doubles is within every bound of the exact product that is a magnitude. -/
theorem mul_spec {x y : Float} {b : ℚ} (hx : isFinite x = true) (hy : isFinite y = true)
    (hb : IsMagnitude b) (hle : magnitude x * magnitude y ≤ b) :
    isFinite (x * y) = true ∧ magnitude (x * y) ≤ b := by
  obtain ⟨hcanonical, hbound⟩ :=
    mul_unpacked_spec ((canonical_unpack_iff x).mpr hx) ((canonical_unpack_iff y).mpr hy) hb hle
  exact ofModel_pack_spec hcanonical hb hbound

/-- A product of doubles within powers of two. -/
theorem mul_two_pow_spec {x y : Float} {j k : ℕ} (hx : isFinite x = true ∧ magnitude x ≤ 2 ^ j)
    (hy : isFinite y = true ∧ magnitude y ≤ 2 ^ k) (hsum : j + k ≤ 1023) :
    isFinite (x * y) = true ∧ magnitude (x * y) ≤ 2 ^ (j + k) := by
  have hle : magnitude x * magnitude y ≤ 2 ^ (j + k) := by
    rw [pow_add]
    exact mul_le_mul hx.2 hy.2 (magnitude_nonneg y) (by positivity)
  exact mul_spec hx.1 hy.1 (isMagnitude_two_pow hsum) hle

/-! ## Quotients -/

/-- A quotient of naturals with the accuracy of the rest. -/
theorem Below.ofFraction (m : ℕ) {d : ℕ} (hd : 0 < d) :
    Below (.ofMantissaAndAccuracy (m / d) (UnpackedFloat.accuracyOfFraction (m % d) d)) (m / d : ℚ) := by
  have hpos : (0 : ℚ) < d := by exact_mod_cast hd
  have hsplit : (d : ℚ) * (m / d : ℕ) + (m % d : ℕ) = m := by exact_mod_cast Nat.div_add_mod m d
  have hrest : (0 : ℚ) ≤ (m % d : ℕ) := Nat.cast_nonneg _
  refine ⟨?_, fun hbits => ?_⟩
  · rw [mantissa_ofMantissaAndAccuracy, le_div_iff₀ hpos]
    linarith
  · have hne : m % d ≠ 0 := by
      intro hzero
      rw [UnpackedFloat.accuracyOfFraction, if_pos hzero] at hbits
      exact Bool.noConfusion hbits
    have hrest : (0 : ℚ) < (m % d : ℕ) := by exact_mod_cast Nat.pos_of_ne_zero hne
    rw [mantissa_ofMantissaAndAccuracy, lt_div_iff₀ hpos]
    linarith

/-- The dividend is shifted so far to the left that the quotient has enough bits. -/
theorem roundWithAccuracy_div_spec (sign : UnpackedFloat.Sign) {m m' : ℕ} {e e' : ℤ} {y : ℚ}
    (hm : 0 < m) (hm' : 0 < m') (hy : IsMagnitude y) (hle : (m : ℚ) * 2 ^ e / (m' * 2 ^ e') ≤ y) :
    let quotient := UnpackedFloat.divCore .binary64 m e m' e'
    let rounded := UnpackedFloat.roundWithAccuracy .binary64 sign quotient.1 quotient.2.1 quotient.2.2
    Canonical rounded ∧ unpackedMagnitude rounded ≤ y := by
  have htarget : Format.binary64.targetExponent (totalExponent m e - totalExponent m' e')
      = max ((m.log2 : ℤ) + e - (m'.log2 + e') - 53) (-1074) := by
    simp only [Format.targetExponent, totalExponent, mantissaBits_binary64, Format.minExponent]
    norm_num
    congr 1
    ring
  -- the dividend is shifted until the quotient has its exponent `t`, or the least one
  rw [UnpackedFloat.divCore, htarget]
  set t := min (e - e') (max ((m.log2 : ℤ) + e - (m'.log2 + e') - 53) (-1074)) with ht
  obtain ⟨k, hk⟩ : ∃ k : ℕ, e - e' = t + k := ⟨(e - e' - t).toNat, by omega⟩
  have hshift : (e - e' - t).toNat = k := by omega
  rw [hshift]
  refine roundWithAccuracy_spec sign (Below.ofFraction (m <<< k) hm') ?_ hy ?_
  · -- the quotient is long enough, unless the exponent cannot be less
    by_cases hleast : t ≤ -1074
    · exact Or.inr hleast
    · have hlog : 52 + (m'.log2 + 1) ≤ m.log2 + k := by omega
      refine Or.inl ?_
      rw [Nat.le_div_iff_mul_le hm', Nat.shiftLeft_eq]
      calc 2 ^ 52 * m' ≤ 2 ^ 52 * 2 ^ (m'.log2 + 1) := Nat.mul_le_mul_left _ Nat.lt_log2_self.le
        _ = 2 ^ (52 + (m'.log2 + 1)) := (Nat.pow_add ..).symm
        _ ≤ 2 ^ (m.log2 + k) := Nat.pow_le_pow_right (by decide) hlog
        _ = 2 ^ m.log2 * 2 ^ k := Nat.pow_add ..
        _ ≤ m * 2 ^ k := Nat.mul_le_mul_right _ (Nat.log2_self_le hm.ne')
  · have htwo : (2 : ℚ) ≠ 0 := by norm_num
    have hexponent : t = e - e' - k := by omega
    refine le_of_eq_of_le ?_ hle
    rw [Nat.shiftLeft_eq, hexponent, zpow_sub₀ htwo, zpow_sub₀ htwo, zpow_natCast]
    push_cast
    field_simp

theorem div_unpacked_spec {u v : UnpackedFloat} {y : ℚ} (hu : Canonical u) (hv : Canonical v)
    (hne : unpackedMagnitude v ≠ 0) (hy : IsMagnitude y)
    (hle : unpackedMagnitude u / unpackedMagnitude v ≤ y) :
    Canonical (UnpackedFloat.div .binary64 u v) ∧ unpackedMagnitude (UnpackedFloat.div .binary64 u v) ≤ y := by
  cases hv using Canonical.cases with
  | zero => exact absurd rfl hne
  | finite sign' m' e' hm' =>
      cases hu using Canonical.cases with
      | zero => exact ⟨trivial, hy.nonneg⟩
      | finite sign m e hm =>
          exact roundWithAccuracy_div_spec (sign / sign') hm hm' hy hle

/-- A quotient of finite doubles is within every bound of the exact quotient that is a magnitude. -/
theorem div_spec {x y : Float} {b : ℚ} (hx : isFinite x = true) (hy : isFinite y = true)
    (hne : magnitude y ≠ 0) (hb : IsMagnitude b) (hle : magnitude x / magnitude y ≤ b) :
    isFinite (x / y) = true ∧ magnitude (x / y) ≤ b := by
  obtain ⟨hcanonical, hbound⟩ := div_unpacked_spec ((canonical_unpack_iff x).mpr hx)
    ((canonical_unpack_iff y).mpr hy) hne hb hle
  exact ofModel_pack_spec hcanonical hb hbound

/-! ## Differences -/

/-- The number has no negative sign, or is zero. -/
def NotNegative : UnpackedFloat → Prop
  | .finite sign _ _ _ => sign = .positive
  | .zero _ => True
  | _ => False

/-- The difference of two numbers that are not negative is no larger than the larger of them. -/
theorem sub_unpacked_spec {u v : UnpackedFloat} (hu : Canonical u) (hv : Canonical v)
    (hpos : NotNegative u) (hpos' : NotNegative v) {y : ℚ} (hy : IsMagnitude y)
    (hle : max (unpackedMagnitude u) (unpackedMagnitude v) ≤ y) :
    Canonical (UnpackedFloat.sub .binary64 u v) ∧ unpackedMagnitude (UnpackedFloat.sub .binary64 u v) ≤ y := by
  obtain ⟨hleft, hright⟩ := max_le_iff.mp hle
  cases hu using Canonical.cases with
  | zero sign =>
      cases hv using Canonical.cases with
      | zero sign' =>
          -- the difference is a zero, whose sign depends on the two
          cases sign <;> cases sign' <;> exact ⟨trivial, hy.nonneg⟩
      | finite _ _ _ _ hv => exact ⟨hv, hright⟩
  | finite sign m e hm hu =>
      cases hv using Canonical.cases with
      | zero => exact ⟨hu, hleft⟩
      | finite sign' m' e' hm' =>
          obtain rfl : sign = .positive := hpos
          obtain rfl : sign' = .positive := hpos'
          have hleft := (decreaseExponent_magnitude m (min_le_left e e')).trans_le hleft
          have hright := (decreaseExponent_magnitude m' (min_le_right e e')).trans_le hright
          refine normalize_spec .positive hy ?_
          show |((UnpackedFloat.Sign.positive.apply (UnpackedFloat.decreaseExponent m e (min e e')).1
            - UnpackedFloat.Sign.positive.apply (UnpackedFloat.decreaseExponent m' e' (min e e')).1 : ℤ) : ℚ)|
              * 2 ^ min e e' ≤ y
          generalize (UnpackedFloat.decreaseExponent m e (min e e')).1 = a at *
          generalize (UnpackedFloat.decreaseExponent m' e' (min e e')).1 = b at *
          have hdifference : ((UnpackedFloat.Sign.positive.apply a
              - UnpackedFloat.Sign.positive.apply b : ℤ) : ℚ) = a - b := by
            simp [UnpackedFloat.Sign.apply]
          have hpower : (0 : ℚ) < 2 ^ min e e' := by positivity
          have hlarger : |(a : ℚ) - b| ≤ max (a : ℚ) b :=
            abs_sub_le_of_nonneg_of_le (Nat.cast_nonneg a) (le_max_left _ _) (Nat.cast_nonneg b)
              (le_max_right _ _)
          rw [hdifference]
          calc |(a : ℚ) - b| * 2 ^ min e e' ≤ max (a : ℚ) b * 2 ^ min e e' := by gcongr
            _ ≤ y := by
              rcases le_total (a : ℚ) b with h | h
              · rwa [max_eq_right h]
              · rwa [max_eq_left h]

theorem le_zero_iff (x : Float) : x ≤ 0.0 ↔ x.toModel.unpack.le (.zero .positive) = true :=
  decide_eq_true_iff

theorem lt_zero_iff (x : Float) : x < 0.0 ↔ x.toModel.unpack.lt (.zero .positive) = true :=
  decide_eq_true_iff

/-- What is below zero is at most zero. -/
theorem not_lt_of_not_le {x : Float} (h : ¬x ≤ 0.0) : ¬x < 0.0 := by
  rw [le_zero_iff, UnpackedFloat.le] at h
  rw [lt_zero_iff, UnpackedFloat.lt, beq_iff_eq]
  intro hless
  exact h (by rw [hless]; rfl)

/-- What is not below zero has no negative sign. -/
theorem notNegative_of_not_lt {x : Float} (hx : isFinite x = true) (h : ¬x < 0.0) :
    NotNegative x.toModel.unpack := by
  have hcanonical := (canonical_unpack_iff x).mpr hx
  rw [lt_zero_iff] at h
  generalize x.toModel.unpack = u at hcanonical h ⊢
  cases hcanonical using Canonical.cases with
  | zero => trivial
  | finite sign m e hm =>
      cases sign with
      | positive => rfl
      | negative => exact absurd rfl h

/-- What is not at most zero has a magnitude. -/
theorem magnitude_ne_zero {x : Float} (hx : isFinite x = true) (h : ¬x ≤ 0.0) : magnitude x ≠ 0 := by
  have hcanonical := (canonical_unpack_iff x).mpr hx
  rw [le_zero_iff] at h
  rw [magnitude]
  generalize x.toModel.unpack = u at hcanonical h ⊢
  cases hcanonical using Canonical.cases with
  | zero => exact absurd rfl h
  | finite sign m e hm =>
      have hm : (0 : ℚ) < m := by exact_mod_cast hm
      rw [unpackedMagnitude_finite]
      positivity

/-- A difference of finite doubles that are not negative is no larger than the larger of them. -/
theorem sub_spec {x y : Float} (hx : isFinite x = true) (hy : isFinite y = true) (hpos : ¬x < 0.0)
    (hpos' : ¬y < 0.0) :
    isFinite (x - y) = true ∧ magnitude (x - y) ≤ max (magnitude x) (magnitude y) := by
  have hmax := (isMagnitude_magnitude hx).max (isMagnitude_magnitude hy)
  obtain ⟨hcanonical, hbound⟩ := sub_unpacked_spec ((canonical_unpack_iff x).mpr hx)
    ((canonical_unpack_iff y).mpr hy) (notNegative_of_not_lt hx hpos) (notNegative_of_not_lt hy hpos') hmax
    (le_refl _)
  exact ofModel_pack_spec hcanonical hmax hbound

/-! ## Whole numbers -/

theorem neg_unpacked_spec {u : UnpackedFloat} (hu : Canonical u) :
    Canonical u.neg ∧ unpackedMagnitude u.neg = unpackedMagnitude u := by
  cases hu using Canonical.cases with
  | zero => exact ⟨trivial, rfl⟩
  | finite _ _ _ _ hu => exact ⟨hu, rfl⟩

theorem neg_spec {x : Float} (hx : isFinite x = true) :
    isFinite (-x) = true ∧ magnitude (-x) ≤ magnitude x := by
  obtain ⟨hcanonical, hmagnitude⟩ := neg_unpacked_spec ((canonical_unpack_iff x).mpr hx)
  exact ofModel_pack_spec hcanonical (isMagnitude_magnitude hx) hmagnitude.le

/-- The double that stands for one in literals. -/
theorem one_spec : isFinite (Float.ofBits 0x3FF0000000000000) = true
    ∧ magnitude (Float.ofBits 0x3FF0000000000000) = 1 := by
  have hone : shape (Float.ofBits 0x3FF0000000000000) = .finite false (2 ^ 52) (-52) := by decide
  refine ⟨isFinite_of_shape hone, ?_⟩
  rw [magnitude_of_shape hone]
  norm_num

/-- A natural number that fits a mantissa is the literal times one. -/
theorem ofNat_short_eq {n : ℕ} (hn : n < 2 ^ 53) :
    Float.ofNat n = .ofModel (.pack (UnpackedFloat.normalize .binary64 n 0 .positive))
      * Float.ofBits 0x3FF0000000000000 := by
  have hword : n.toUInt64.toNat = n := Nat.mod_eq_of_lt (hn.trans (by decide))
  have hpack : n.toUInt64.toFloat
      = .ofModel (.pack (UnpackedFloat.normalize .binary64 n.toUInt64.toNat 0 .positive)) := rfl
  rw [← hword, ← hpack, hword]
  show Float.ofScientific n false 0 = _
  rw [Float.ofScientific, dif_pos ⟨hn, by decide⟩]
  rfl

theorem ofNat_short_spec {n : ℕ} {b : ℚ} (hn : n < 2 ^ 53) (hb : IsMagnitude b) (hle : (n : ℚ) ≤ b) :
    isFinite (Float.ofNat n) = true ∧ magnitude (Float.ofNat n) ≤ b := by
  have hexact : |((n : ℤ) : ℚ)| * 2 ^ (0 : ℤ) ≤ b := by simpa using hle
  obtain ⟨hcanonical, hbound⟩ := normalize_spec .positive hb hexact
  obtain ⟨hfinite, hbound⟩ := ofModel_pack_spec hcanonical hb hbound
  rw [ofNat_short_eq hn]
  exact mul_spec hfinite one_spec.1 hb (by rw [one_spec.2, mul_one]; exact hbound)

/-- Where a number is longer than a mantissa or the power of ten is none that a double holds exactly, a natural
number times a power of ten is a product: the number, shifted to the left, and the power. -/
theorem ofScientific_long_spec {n k : ℕ} {b : ℚ} (hlong : ¬(n < 2 ^ 53 ∧ k ≤ 22)) (hn : 0 < n) (hk : k ≤ 2048)
    (hb : IsMagnitude b) (hle : (n : ℚ) * 10 ^ k ≤ b) :
    isFinite (Float.ofScientific n false k) = true ∧ magnitude (Float.ofScientific n false k) ≤ b := by
  have hshift : n <<< 53 = n * 2 ^ 53 := Nat.shiftLeft_eq n 53
  have hpositive : 0 < n <<< 53 := by omega
  have hpower : 0 < 10 ^ k := by positivity
  have hproduct : UnpackedFloat.ofScientific .binary64 n k
      = .mul .binary64 (.finite .positive (n <<< 53) (-53) hpositive) (.finite .positive (10 ^ k) 0 hpower) := by
    have hbits : (2 : ℤ) ^ Format.binary64.exponentBits = 2048 := by decide
    rw [UnpackedFloat.ofScientific, dif_neg (by omega), if_neg (by omega), if_neg (by omega),
      if_pos (Int.natCast_nonneg k)]
    rfl
  have hmodel : Float.ofScientific n false k
      = .ofModel (.pack (UnpackedFloat.ofScientific .binary64 n k)) := by
    rw [Float.ofScientific, dif_neg hlong]
    rfl
  -- the shift makes the product so long that rounding it leaves a full mantissa
  have hfits : 2 ^ 52 ≤ n <<< 53 * 10 ^ k := by
    have hshifted : 2 ^ 52 ≤ n <<< 53 := by omega
    exact hshifted.trans (Nat.le_mul_of_pos_right _ hpower)
  have hexact : ((n <<< 53 : ℕ) : ℚ) * 2 ^ (-53 : ℤ) * ((10 ^ k : ℕ) * 2 ^ (0 : ℤ)) ≤ b := by
    have hback : ((n <<< 53 : ℕ) : ℚ) * 2 ^ (-53 : ℤ) = n := by
      rw [hshift, Nat.cast_mul, mul_assoc, zpow_neg]
      norm_num
    rw [hback]
    simpa using hle
  have hspec := mul_finite_spec .positive .positive hpositive hpower (Or.inl hfits) hb hexact
  rw [hmodel, hproduct]
  generalize UnpackedFloat.mul _ _ _ = u at hspec ⊢
  exact ofModel_pack_spec hspec.1 hb hspec.2

/-- A natural number becomes a double within every bound of it that is a magnitude. -/
theorem ofNat_spec {n : ℕ} {b : ℚ} (hb : IsMagnitude b) (hle : (n : ℚ) ≤ b) :
    isFinite (Float.ofNat n) = true ∧ magnitude (Float.ofNat n) ≤ b := by
  by_cases hn : n < 2 ^ 53
  · exact ofNat_short_spec hn hb hle
  · exact ofScientific_long_spec (fun hshort => hn hshort.1) (by omega) (Nat.zero_le _) hb (by simpa using hle)

/-- A mantissa loses a bit at least before it is rounded to a whole number. -/
theorem half_up_le {m half : ℕ} (hm : m < 2 ^ 53) (hpos : 0 < half) : (m + half) / (2 * half) ≤ 2 ^ 52 := by
  rw [← Nat.lt_succ_iff, Nat.div_lt_iff_lt_mul (by omega)]
  calc m + half < 2 ^ 53 * half + 2 * half := by
        have hm : m < 2 ^ 53 * half := hm.trans_le (Nat.le_mul_of_pos_right _ hpos)
        omega
    _ = (2 ^ 52 + 1) * (2 * half) := by ring

/-- Rounding to a whole number stays within every bound that is large enough to be whole itself. -/
theorem roundAway_spec {x : Float} {b : ℚ} (hx : isFinite x = true) (hle : magnitude x ≤ b)
    (hlarge : 2 ^ 52 ≤ b) : isFinite (roundAway x) = true ∧ magnitude (roundAway x) ≤ b := by
  obtain ⟨negative, m, e, h⟩ := isFinite_iff_shape.mp hx
  obtain ⟨hshort, -⟩ := bounds_of_shape h
  simp only [roundAway, h]
  by_cases he : 0 ≤ e
  · simp only [he, ↓reduceIte]
    exact ⟨hx, hle⟩
  · simp only [he, ↓reduceIte]
    have hwhole := half_up_le hshort (Nat.two_pow_pos (-e - 1).toNat)
    rw [← Nat.pow_eq] at hwhole
    generalize Nat.pow 2 (-e - 1).toNat = half at *
    obtain ⟨hfinite, hmagnitude⟩ := ofNat_spec (isMagnitude_natCast (hwhole.trans_lt (by decide))) le_rfl
    have hbound : (((m + half) / (2 * half) : ℕ) : ℚ) ≤ b :=
      le_trans (by exact_mod_cast hwhole) hlarge
    cases negative with
    | false => exact ⟨hfinite, hmagnitude.trans hbound⟩
    | true =>
        obtain ⟨hneg, hle⟩ := neg_spec hfinite
        exact ⟨hneg, hle.trans (hmagnitude.trans hbound)⟩

end Appraisal.Binary64
