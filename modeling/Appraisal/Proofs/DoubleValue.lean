/-
The rational number that a finite double stands for.

Doubles are compared by sign, exponent and mantissa, and that is the order of the numbers that they stand for. A
product of doubles is the exact product, rounded, so that products are in the order of the exact ones whatever
the signs. Rounding to a whole number is exact: it gives the double of the nearest one.
-/
import Mathlib.Data.Rat.Floor
import Appraisal.Proofs.DoubleEquality
import Appraisal.Proofs.DoubleNearest
import Appraisal.Proofs.DoubleOrder

set_option autoImplicit false

namespace Appraisal.Binary64

open Float.Model

/-! ## Signs -/

/-- A magnitude with a sign. -/
def signed : UnpackedFloat.Sign → ℚ → ℚ
  | .positive, q => q
  | .negative, q => -q

@[simp] theorem signed_positive (q : ℚ) : signed .positive q = q := rfl

@[simp] theorem signed_negative (q : ℚ) : signed .negative q = -q := rfl

theorem signed_mul_signed (s s' : UnpackedFloat.Sign) (q q' : ℚ) :
    signed s q * signed s' q' = signed (s * s') (q * q') := by
  cases s <;> cases s'
  · exact neg_mul_neg q q'
  · exact neg_mul q q'
  · exact mul_neg q q'
  · rfl

/-- The sign of a number, which a zero has as well. -/
def signOf : UnpackedFloat → UnpackedFloat.Sign
  | .zero sign | .finite sign _ _ _ | .infinity sign => sign
  | .notANumber => .positive

@[simp] theorem signOf_settle (sign : UnpackedFloat.Sign) (rounded : ℕ) (e : ℤ) :
    signOf (settle sign rounded e) = sign := by
  rw [settle]
  obtain ⟨shifted, target⟩ := UnpackedFloat.shiftToTargetExponent .binary64 rounded e .exact
  dsimp only
  by_cases hzero : shifted.mantissa = 0
  · rw [dif_pos hzero]
    rfl
  · rw [dif_neg hzero]
    rfl

theorem signOf_round (sign : UnpackedFloat.Sign) {m : ℕ} (e : ℤ) (hm : m ≠ 0) :
    signOf (.round .binary64 sign m e) = sign := by
  obtain ⟨m', e', hround, hfits, -⟩ := exists_round_eq sign e hm
  obtain ⟨n, -, -, -, hsettle, -⟩ := roundWithAccuracy_parts sign .exact hfits
  rw [hround, hsettle, signOf_settle]

theorem signOf_mul {u v : UnpackedFloat} (hu : Canonical u) (hv : Canonical v) :
    signOf (.mul .binary64 u v) = signOf u * signOf v := by
  cases hu using Canonical.cases with
  | zero =>
      cases hv using Canonical.cases with
      | zero => rfl
      | finite => rfl
  | finite sign m e hm hu =>
      cases hv using Canonical.cases with
      | zero => rfl
      | finite sign' m' e' hm' hv =>
          obtain ⟨n, -, -, -, hsettle, -⟩ :=
            roundWithAccuracy_parts (sign * sign') .exact (mul_fits hm hm' hu hv)
          show signOf (.roundWithAccuracy .binary64 (sign * sign') (m * m') (e + e') .exact) = sign * sign'
          rw [hsettle, signOf_settle]

/-! ## Values -/

/-- What a number stands for; infinities and the NaN stand for nothing. -/
def unpackedValue (u : UnpackedFloat) : ℚ :=
  signed (signOf u) (unpackedMagnitude u)

/-- What a double stands for. -/
def value (x : Float) : ℚ :=
  unpackedValue x.toModel.unpack

@[simp] theorem unpackedValue_zero (sign : UnpackedFloat.Sign) : unpackedValue (.zero sign) = 0 := by
  cases sign <;> rfl

@[simp] theorem unpackedValue_positive (m : ℕ) (e : ℤ) (hm : 0 < m) :
    unpackedValue (.finite .positive m e hm) = m * 2 ^ e := rfl

@[simp] theorem unpackedValue_negative (m : ℕ) (e : ℤ) (hm : 0 < m) :
    unpackedValue (.finite .negative m e hm) = -(m * 2 ^ e) := rfl

/-- Of two magnitudes in form the one with the smaller exponent is smaller, since the other one is full. -/
theorem canonical_magnitude_le_iff {sign sign' : UnpackedFloat.Sign} {m m' : ℕ} {e e' : ℤ} {hm : 0 < m}
    {hm' : 0 < m'} (hu : Canonical (.finite sign m e hm)) (hv : Canonical (.finite sign' m' e' hm')) :
    (m : ℚ) * 2 ^ e ≤ m' * 2 ^ e' ↔ e < e' ∨ e = e' ∧ m ≤ m' := by
  obtain ⟨hshort, hleast, hnormal⟩ := hu
  obtain ⟨hshort', hleast', hnormal'⟩ := hv
  have hsmaller : ∀ {a b : ℕ} {s t : ℤ}, a < 2 ^ 53 → 2 ^ 52 ≤ b → s < t → (a : ℚ) * 2 ^ s < b * 2 ^ t := by
    intro a b s t ha hb hlt
    have ha : (a : ℚ) < 2 ^ 53 := by exact_mod_cast ha
    have hb : (2 : ℚ) ^ 52 ≤ b := by exact_mod_cast hb
    calc (a : ℚ) * 2 ^ s < 2 ^ 53 * 2 ^ s := by gcongr
      _ ≤ 2 ^ 52 * 2 ^ t := two_pow_mul_le hlt
      _ ≤ b * 2 ^ t := by gcongr
  rcases lt_trichotomy e e' with hlt | rfl | hgt
  · exact iff_of_true (hsmaller hshort (hnormal'.resolve_right (by omega)) hlt).le (Or.inl hlt)
  · have hpos : (0 : ℚ) < 2 ^ e := by positivity
    rw [mul_le_mul_iff_left₀ hpos, Nat.cast_le]
    simp
  · refine iff_of_false (not_le.mpr (hsmaller hshort' (hnormal.resolve_right (by omega)) hgt)) ?_
    omega

/-- **Numbers in form are compared as what they stand for.** -/
theorem le_iff_unpackedValue_le {u v : UnpackedFloat} (hu : Canonical u) (hv : Canonical v) :
    u.le v = true ↔ unpackedValue u ≤ unpackedValue v := by
  have hpositive : ∀ {m : ℕ} (e : ℤ), 0 < m → (0 : ℚ) < m * 2 ^ e := by
    intro m e hm
    have hm : (0 : ℚ) < m := by exact_mod_cast hm
    positivity
  -- doubles are placed by sign, exponent and mantissa, the negative ones the other way round
  rw [le_iff_place]
  cases hu using Canonical.cases with
  | zero =>
      cases hv using Canonical.cases with
      | zero =>
          rw [unpackedValue_zero, unpackedValue_zero]
          dsimp only [place]
          simp
      | finite sign' m' e' hm' =>
          have hv' := hpositive e' hm'
          cases sign' with
          | negative =>
              rw [unpackedValue_zero, unpackedValue_negative]
              dsimp only [place]
              simpa [Prod.Lex.toLex_le_toLex] using hv'
          | positive =>
              rw [unpackedValue_zero, unpackedValue_positive]
              dsimp only [place]
              simpa [Prod.Lex.toLex_le_toLex] using hv'.le
  | finite sign m e hm hu =>
      have hu' := hpositive e hm
      cases hv using Canonical.cases with
      | zero =>
          cases sign with
          | negative =>
              rw [unpackedValue_negative, unpackedValue_zero]
              dsimp only [place]
              simpa [Prod.Lex.toLex_le_toLex] using hu'.le
          | positive =>
              rw [unpackedValue_positive, unpackedValue_zero]
              dsimp only [place]
              simpa [Prod.Lex.toLex_le_toLex] using hu'
      | finite sign' m' e' hm' hv =>
          have hv' := hpositive e' hm'
          cases sign <;> cases sign'
          case negative.negative =>
            rw [unpackedValue_negative, unpackedValue_negative, neg_le_neg_iff, canonical_magnitude_le_iff hv hu]
            dsimp only [place]
            simp [Prod.Lex.toLex_le_toLex, eq_comm]
          case negative.positive =>
            -- across zero the magnitudes do not matter
            have hle := (neg_lt_zero.mpr hu').le.trans hv'.le
            rw [unpackedValue_negative, unpackedValue_positive]
            dsimp only [place]
            simpa [Prod.Lex.toLex_le_toLex] using hle
          case positive.negative =>
            have hlt := (neg_lt_zero.mpr hv').trans hu'
            rw [unpackedValue_positive, unpackedValue_negative]
            dsimp only [place]
            simpa [Prod.Lex.toLex_le_toLex] using hlt
          case positive.positive =>
            rw [unpackedValue_positive, unpackedValue_positive, canonical_magnitude_le_iff hu hv]
            dsimp only [place]
            simp [Prod.Lex.toLex_le_toLex]

theorem lt_iff_not_le {u v : UnpackedFloat} (hu : Canonical u) (hv : Canonical v) :
    u.lt v = true ↔ ¬v.le u = true := by
  have hsome : ∃ order, u.compare v = some order := by
    cases hu using Canonical.cases with
    | zero =>
        cases hv using Canonical.cases with
        | zero => exact ⟨_, rfl⟩
        | finite sign' => cases sign' <;> exact ⟨_, rfl⟩
    | finite sign =>
        cases hv using Canonical.cases with
        | zero => cases sign <;> exact ⟨_, rfl⟩
        | finite sign' => cases sign <;> cases sign' <;> exact ⟨_, rfl⟩
  obtain ⟨order, horder⟩ := hsome
  rw [UnpackedFloat.lt, UnpackedFloat.le, compare_swap u v, horder]
  cases order <;> decide

/-! ## Doubles -/

section Doubles

variable {x y : Float}

/-- **Finite doubles are compared as what they stand for.** -/
theorem le_iff_value_le (hx : isFinite x = true) (hy : isFinite y = true) : x ≤ y ↔ value x ≤ value y :=
  decide_eq_true_iff.trans
    (le_iff_unpackedValue_le ((canonical_unpack_iff x).mpr hx) ((canonical_unpack_iff y).mpr hy))

theorem lt_iff_value_lt (hx : isFinite x = true) (hy : isFinite y = true) : x < y ↔ value x < value y := by
  have hlt : x < y ↔ x.toModel.unpack.lt y.toModel.unpack = true := decide_eq_true_iff
  rw [hlt, lt_iff_not_le ((canonical_unpack_iff x).mpr hx) ((canonical_unpack_iff y).mpr hy),
    le_iff_unpackedValue_le ((canonical_unpack_iff y).mpr hy) ((canonical_unpack_iff x).mpr hx), not_le]
  rfl

theorem value_zero : isFinite 0.0 = true ∧ value 0.0 = 0 :=
  ⟨by decide, rfl⟩

theorem nonneg_iff_value_nonneg (hx : isFinite x = true) : 0.0 ≤ x ↔ 0 ≤ value x := by
  rw [le_iff_value_le value_zero.1 hx, value_zero.2]

theorem nonpos_iff_value_nonpos (hx : isFinite x = true) : x ≤ 0.0 ↔ value x ≤ 0 := by
  rw [le_iff_value_le hx value_zero.1, value_zero.2]

/-- Minus zero is not below zero either. -/
theorem not_neg_iff_value_nonneg (hx : isFinite x = true) : ¬x < 0.0 ↔ 0 ≤ value x := by
  rw [lt_iff_value_lt hx value_zero.1, value_zero.2, not_lt]

/-- The value from the parts. -/
theorem value_of_shape {negative : Bool} {m : ℕ} {e : ℤ} (h : shape x = .finite negative m e) :
    value x = signed (if negative then .negative else .positive) (m * 2 ^ e) := by
  rcases unpack_of_shape_finite h with ⟨rfl, -, sign, hzero⟩ | ⟨hm, hfinite⟩
  · rw [value, hzero, unpackedValue_zero, Nat.cast_zero, zero_mul]
    cases negative <;> simp
  · rw [value, hfinite]
    rfl

theorem value_hundred : isFinite 100.0 = true ∧ value 100.0 = 100 := by
  refine ⟨isFinite_of_shape shape_hundred, ?_⟩
  rw [value_of_shape shape_hundred]
  norm_num

theorem unpackedValue_neg {u : UnpackedFloat} (hu : Canonical u) : unpackedValue u.neg = -unpackedValue u := by
  cases hu using Canonical.cases with
  | zero =>
      refine (unpackedValue_zero _).trans ?_
      rw [unpackedValue_zero, neg_zero]
  | finite sign =>
      cases sign with
      | negative => exact (neg_neg _).symm
      | positive => rfl

theorem value_neg (hx : isFinite x = true) : value (-x) = -value x := by
  have hcanonical := (canonical_unpack_iff x).mpr hx
  obtain ⟨hneg, hmagnitude⟩ := neg_unpacked_spec hcanonical
  have hunpack : (-x).toModel.unpack = x.toModel.unpack.neg :=
    unpack_pack hneg (isMagnitude_magnitude hx) hmagnitude.le
  rw [value, hunpack, unpackedValue_neg hcanonical]
  rfl

end Doubles

/-! ## Products -/

/-- The second number is what the first one is rounded to, which has the same sign. -/
def RoundsSigned (q r : ℚ) : Prop :=
  0 ≤ q ∧ Rounds q r ∨ q ≤ 0 ∧ Rounds (-q) (-r)

namespace RoundsSigned

variable {q q' r r' : ℚ}

theorem ofSigned (sign : UnpackedFloat.Sign) (hq : 0 ≤ q) (h : Rounds q r) :
    RoundsSigned (signed sign q) (signed sign r) := by
  cases sign with
  | positive => exact Or.inl ⟨hq, h⟩
  | negative =>
      rw [signed_negative, signed_negative]
      exact Or.inr ⟨neg_nonpos.mpr hq, by rwa [neg_neg, neg_neg]⟩

/-- **Rounding keeps the order**, across zero as well. -/
theorem le (h : RoundsSigned q r) (h' : RoundsSigned q' r') (hle : q ≤ q') : r ≤ r' := by
  rcases h with ⟨hq, hr⟩ | ⟨hq, hr⟩ <;> rcases h' with ⟨hq', hr'⟩ | ⟨hq', hr'⟩
  · exact hr.le hr' hle
  · -- both are zero
    obtain rfl : q = 0 := le_antisymm (hle.trans hq') hq
    obtain rfl : q' = 0 := le_antisymm hq' hle
    rw [neg_zero] at hr'
    have hzero := hr.eq_of_isMagnitude isMagnitude_zero
    have hzero' := hr'.eq_of_isMagnitude isMagnitude_zero
    linarith
  · have hr := Rounds.zero.le hr (neg_nonneg.mpr hq)
    have hr' := Rounds.zero.le hr' hq'
    linarith
  · exact neg_le_neg_iff.mp (hr'.le hr (neg_le_neg hle))

theorem eq_of_isMagnitude (h : RoundsSigned q r) (hq : IsMagnitude |q|) : r = q := by
  rcases h with ⟨hpos, hr⟩ | ⟨hneg, hr⟩
  · rw [abs_of_nonneg hpos] at hq
    exact hr.eq_of_isMagnitude hq
  · rw [abs_of_nonpos hneg] at hq
    exact neg_injective (hr.eq_of_isMagnitude hq)

end RoundsSigned

/-- **A product of doubles is the exact product, rounded**, as long as that is within the range of doubles. -/
theorem value_mul {x y : Float} {b : ℚ} (hx : isFinite x = true) (hy : isFinite y = true) (hb : IsMagnitude b)
    (hle : magnitude x * magnitude y ≤ b) : RoundsSigned (value x * value y) (value (x * y)) := by
  have hsign : signOf (x * y).toModel.unpack = signOf x.toModel.unpack * signOf y.toModel.unpack := by
    rw [unpack_mul hx hy hb hle]
    exact signOf_mul ((canonical_unpack_iff x).mpr hx) ((canonical_unpack_iff y).mpr hy)
  rw [value, value, value, unpackedValue, unpackedValue, unpackedValue, signed_mul_signed, hsign]
  exact .ofSigned _ (mul_nonneg (magnitude_nonneg x) (magnitude_nonneg y)) (rounds_mul hx hy hb hle)

/-! ## Whole numbers -/

/-- A natural number that fits a mantissa is not changed when it is brought into form. -/
theorem normalize_natCast {n : ℕ} (hn : n < 2 ^ 53) :
    Canonical (UnpackedFloat.normalize .binary64 n 0 .positive)
      ∧ unpackedMagnitude (UnpackedFloat.normalize .binary64 n 0 .positive) = n
      ∧ unpackedValue (UnpackedFloat.normalize .binary64 n 0 .positive) = n := by
  have hexact : |((n : ℤ) : ℚ)| * 2 ^ (0 : ℤ) ≤ n := by simp
  refine ⟨(normalize_spec .positive (isMagnitude_natCast hn) hexact).1, ?_⟩
  rcases Nat.eq_zero_or_pos n with rfl | hpos
  · exact ⟨rfl, rfl⟩
  · have hround : UnpackedFloat.normalize .binary64 n 0 .positive
        = UnpackedFloat.round .binary64 .positive n 0 := by
      rw [UnpackedFloat.normalize, compare_gt_iff_gt.mpr (by exact_mod_cast hpos)]
      rfl
    have hrounds := rounds_round .positive 0 hpos.ne'
    rw [zpow_zero, mul_one] at hrounds
    have hmagnitude := hrounds.eq_of_isMagnitude (isMagnitude_natCast hn)
    rw [hround, unpackedValue, signOf_round .positive 0 hpos.ne', hmagnitude]
    exact ⟨rfl, rfl⟩

/-- **A natural number that fits a mantissa is a double exactly.** -/
theorem value_ofNat {n : ℕ} (hn : n < 2 ^ 53) : value (Float.ofNat n) = n := by
  obtain ⟨hcanonical, hmagnitude, hvalue⟩ := normalize_natCast hn
  rw [ofNat_short_eq hn]
  set x : Float := .ofModel (.pack (UnpackedFloat.normalize .binary64 n 0 .positive))
  have hexact : IsMagnitude n := isMagnitude_natCast hn
  have hunpack : x.toModel.unpack = UnpackedFloat.normalize .binary64 n 0 .positive :=
    unpack_pack hcanonical hexact hmagnitude.le
  have hfinite : isFinite x = true := by rwa [← canonical_unpack_iff, hunpack]
  have hx : value x = n := by rw [value, hunpack, hvalue]
  have hmagnitude : magnitude x = n := by rw [magnitude, hunpack, hmagnitude]
  have hone : value (Float.ofBits 0x3FF0000000000000) = 1 := by
    have hshape : shape (Float.ofBits 0x3FF0000000000000) = .finite false (2 ^ 52) (-52) := by decide
    rw [value_of_shape hshape]
    norm_num
  have hrounds := value_mul hfinite one_spec.1 hexact (by rw [hmagnitude, one_spec.2, mul_one])
  rw [hx, hone, mul_one] at hrounds
  exact hrounds.eq_of_isMagnitude (by rwa [Nat.abs_cast])

/-- The nearest whole number, a half going away from zero. -/
def nearestWhole (q : ℚ) : ℤ :=
  if q < 0 then -⌊-q + 1 / 2⌋ else ⌊q + 1 / 2⌋

theorem nearestWhole_of_nonneg {q : ℚ} (hq : 0 ≤ q) : nearestWhole q = ⌊q + 1 / 2⌋ :=
  if_neg hq.not_gt

theorem nearestWhole_neg (q : ℚ) : nearestWhole (-q) = -nearestWhole q := by
  rcases lt_trichotomy q 0 with hq | rfl | hq
  · rw [nearestWhole, nearestWhole, if_neg (by linarith), if_pos hq, neg_neg]
  · norm_num [nearestWhole]
  · rw [nearestWhole, nearestWhole, if_pos (by linarith), if_neg hq.not_gt, neg_neg]

theorem nearestWhole_signed (sign : UnpackedFloat.Sign) (q : ℚ) :
    (nearestWhole (signed sign q) : ℚ) = signed sign (nearestWhole q) := by
  cases sign with
  | positive => rfl
  | negative => rw [signed_negative, nearestWhole_neg, Int.cast_neg]; rfl

@[simp] theorem nearestWhole_natCast (n : ℕ) : nearestWhole n = n := by
  rw [nearestWhole_of_nonneg (Nat.cast_nonneg n), Int.floor_natCast_add]
  norm_num

/-- **Rounding to whole numbers keeps the order.** -/
theorem nearestWhole_mono {q q' : ℚ} (hle : q ≤ q') : nearestWhole q ≤ nearestWhole q' := by
  rw [nearestWhole, nearestWhole]
  split_ifs with hneg hneg'
  · have hfloor : ⌊-q' + 1 / 2⌋ ≤ ⌊-q + 1 / 2⌋ := Int.floor_le_floor (by linarith)
    omega
  · have hfloor : 0 ≤ ⌊-q + 1 / 2⌋ := Int.floor_nonneg.mpr (by linarith)
    have hfloor' : 0 ≤ ⌊q' + 1 / 2⌋ := Int.floor_nonneg.mpr (by linarith)
    omega
  · linarith
  · exact Int.floor_le_floor (by linarith)

/-- Half of the last place is added before the places behind the point are cut off. -/
theorem nearestWhole_mul_zpow (m : ℕ) {e : ℤ} (he : ¬0 ≤ e) :
    nearestWhole ((m : ℚ) * 2 ^ e)
      = ((m + Nat.pow 2 (-e - 1).toNat) / (2 * Nat.pow 2 (-e - 1).toNat) : ℕ) := by
  have hhalf : (m : ℚ) * 2 ^ e + 1 / 2 = (m + Nat.pow 2 (-e - 1).toNat : ℕ)
      / (2 * Nat.pow 2 (-e - 1).toNat : ℕ) := by
    obtain ⟨k, rfl⟩ : ∃ k : ℕ, e = -(k + 1 : ℕ) := ⟨(-e - 1).toNat, by omega⟩
    have hexp : (-(-((k + 1 : ℕ) : ℤ)) - 1).toNat = k := by omega
    rw [hexp, Nat.pow_eq, zpow_neg, zpow_natCast, pow_succ]
    push_cast
    field_simp
  rw [nearestWhole_of_nonneg (by positivity), hhalf]
  exact Rat.floor_natCast_div_natCast _ _

/-- **Rounding a double to a whole number is exact.** -/
theorem value_roundAway {x : Float} (hx : isFinite x = true) : value (roundAway x) = nearestWhole (value x) := by
  obtain ⟨negative, m, e, h⟩ := isFinite_iff_shape.mp hx
  obtain ⟨hshort, -⟩ := bounds_of_shape h
  simp only [roundAway, h]
  rw [value_of_shape h, nearestWhole_signed]
  by_cases he : 0 ≤ e
  · -- the double is whole already
    obtain ⟨k, rfl⟩ : ∃ k : ℕ, e = k := ⟨e.toNat, by omega⟩
    have hwhole : (m : ℚ) * 2 ^ (k : ℤ) = (m * 2 ^ k : ℕ) := by push_cast; rfl
    simp only [he, ↓reduceIte]
    rw [value_of_shape h, hwhole, nearestWhole_natCast, Int.cast_natCast]
  · simp only [he, ↓reduceIte]
    have hbound := half_up_le hshort (Nat.two_pow_pos (-e - 1).toNat)
    rw [← Nat.pow_eq] at hbound
    rw [nearestWhole_mul_zpow m he, Int.cast_natCast]
    generalize (m + Nat.pow 2 (-e - 1).toNat) / (2 * Nat.pow 2 (-e - 1).toNat) = n at hbound ⊢
    have hn : n < 2 ^ 53 := hbound.trans_lt (by decide)
    cases negative with
    | false => exact value_ofNat hn
    | true =>
        have hfinite := (ofNat_short_spec hn (isMagnitude_natCast hn) le_rfl).1
        exact (value_neg hfinite).trans (congrArg Neg.neg (value_ofNat hn))

end Appraisal.Binary64
