/-
Every finite double is written so that a number can be read.

A literal has no value if it is larger than every double. The value is computed in two steps, each of which
rounds, so a literal can be too large although the number it spells is not: `17976931348623158` times the
double next to `10 ^ 292` is one, although such a literal is nearer to the largest double than to anything
beyond. So it has to be shown that the digits of a double never get there. The largest double is one case. Below
it the digits stay under the midpoint to the neighbour above, and that leaves room enough for both roundings,
which is checked for the largest powers of ten that a double can have.
-/
import Appraisal.Proofs.DoubleRange
import Appraisal.Proofs.NumberText
import Appraisal.Proofs.Reading
import Appraisal.Proofs.ShortestDigits

set_option autoImplicit false

namespace Appraisal.Literal

open Binary64

/-! ## When a literal has a value -/

/-- Dividing by a power of ten gives no number that is too large. -/
theorem isSome_scaled_of_neg (significand : ℕ) {power : ℤ} (h : power < 0) :
    (scaled significand power).isSome = true := by
  rw [scaled, if_neg (not_le.mpr h)]
  rfl

/-- A literal whose digits fit sixty-four bits has a value if it has no exponent, or if scaling its digits
gives a number. -/
theorem isSome_numeral {l : Literal} (hfits : natOfDigits (l.whole ++ l.fraction) < UInt64.size)
    (hscaled : l.exponent = none ∨
      (scaled (natOfDigits (l.whole ++ l.fraction)) (l.power - l.fraction.length)).isSome = true) :
    l.numeral.isSome = true := by
  have hwhole : natOfDigits l.whole < UInt64.size := by
    refine Nat.lt_of_le_of_lt ?_ hfits
    rw [natOfDigits_append]
    exact le_foldl_digits _ _
  have hleading : gather 0 l.whole = (natOfDigits l.whole, 0) := gather_of_lt 0 l.whole hwhole
  rw [natOfDigits_append] at hfits hscaled
  have hall := gather_of_lt (natOfDigits l.whole) l.fraction hfits
  have hshift : l.power + (((0 : ℕ) : ℤ) - (l.fraction.length - ((0 : ℕ) : ℤ)))
      = l.power - l.fraction.length := by omega
  rw [numeral, hleading]
  simp only [hall, hshift]
  by_cases hinteger : l.fraction = [] ∧ l.exponent = none ∧ True
  · rw [if_pos hinteger]
    rfl
  · rw [if_neg hinteger, Option.isSome_map]
    rcases hscaled with hexponent | hscaled
    · -- there is a fraction, so the digits are divided
      have hfraction : l.fraction ≠ [] := fun h => hinteger ⟨h, hexponent, trivial⟩
      have hlength := List.length_pos_iff.mpr hfraction
      have hpower : l.power = 0 := by rw [power, hexponent]
      exact isSome_scaled_of_neg _ (by omega)
    · exact hscaled

/-! ## Products that stay in range -/

/-- The midpoint below the largest double. -/
def lastMidpoint : ℕ :=
  (2 ^ 54 - 3) * 2 ^ 970

/-- A bound of the significands that go with a power of ten, if there are at most seventeen digits and the
number is at most the midpoint. -/
def largestSignificand (n : ℕ) : ℕ :=
  if n ≤ 291 then 10 ^ 17 else lastMidpoint / 10 ^ n

theorem isMagnitude_largestSignificand (n : ℕ) : IsMagnitude (largestSignificand n) := by
  rw [largestSignificand]
  split_ifs with hn
  · exact ⟨5 ^ 17, 17, by decide, by decide, by decide, by norm_num⟩
  · rcases Nat.eq_or_lt_of_le (not_le.mp hn) with rfl | hlarge
    · -- here the bound is longer than a mantissa, but even
      have hbound : lastMidpoint / 10 ^ (291 + 1) = 8988465674311578 * 2 := by decide +kernel
      rw [hbound]
      exact ⟨8988465674311578, 1, by decide, by decide, by decide, by norm_num⟩
    · have hpower : 10 ^ (292 + 1) ≤ 10 ^ n := pow_le_pow_right₀ (by decide) hlarge
      have hquotient : lastMidpoint / 10 ^ (292 + 1) < 2 ^ 53 := by decide +kernel
      exact isMagnitude_natCast ((Nat.div_le_div_left hpower (by positivity)).trans_lt hquotient)

theorem le_largestSignificand {c n : ℕ} (hdigits : c ≤ 10 ^ 17) (hle : c * 10 ^ n ≤ lastMidpoint) :
    c ≤ largestSignificand n := by
  rw [largestSignificand]
  split_ifs
  · exact hdigits
  · exact (Nat.le_div_iff_mul_le (Nat.pow_pos (by decide))).mpr hle

/-- Even the largest significand can be multiplied by the power of ten. -/
def productFits (n : ℕ) : Bool :=
  match shape (powerOfTen n) with
  | .finite _ m e => largestSignificand n * (m * 2 ^ e.toNat) ≤ (2 ^ 53 - 1) * 2 ^ 971 * 2 ^ (-e).toNat
  | _ => false

theorem productFits_spec {n : ℕ} (hfits : productFits n = true) :
    isFinite (powerOfTen n) = true
      ∧ (largestSignificand n : ℚ) * magnitude (powerOfTen n) ≤ (2 ^ 53 - 1 : ℕ) * 2 ^ (971 : ℤ) := by
  rw [productFits] at hfits
  cases hshape : shape (powerOfTen n) with
  | notANumber => simp [hshape] at hfits
  | infinite negative => simp [hshape] at hfits
  | finite negative m e =>
      simp only [hshape, decide_eq_true_eq] at hfits
      refine ⟨isFinite_of_shape hshape, ?_⟩
      rw [magnitude_of_shape hshape, ← Decimal.pow_toNat_div_pow_toNat 2 e, ← mul_div_assoc, ← mul_div_assoc,
        div_le_iff₀ (by positivity)]
      exact_mod_cast hfits

/-- The powers of ten that a double holds exactly, and the largest ones, where little room is left. -/
theorem all_productFits : (List.range 23 ++ (List.range 20).map (· + 289)).all productFits = true := by
  decide +kernel

/-- In between, the power of ten is at most `2 ^ 960`, and so is the double next to it. -/
theorem middle_powerOfTen_spec {n : ℕ} (hsmall : 22 < n) (hlarge : n ≤ 288) :
    isFinite (powerOfTen n) = true ∧ magnitude (powerOfTen n) ≤ 2 ^ 960 := by
  refine ofScientific_long_spec (by omega) one_pos (by omega) (isMagnitude_two_pow (by decide)) ?_
  -- a thousand is less than two to the tenth
  calc ((1 : ℕ) : ℚ) * 10 ^ n = 10 ^ n := by rw [Nat.cast_one, one_mul]
    _ ≤ 10 ^ (3 * 96) := pow_le_pow_right₀ (by norm_num) hlarge
    _ = (10 ^ 3) ^ 96 := pow_mul ..
    _ ≤ (2 ^ 10) ^ 96 := pow_le_pow_left₀ (by norm_num) (by norm_num) 96
    _ = 2 ^ 960 := (pow_mul ..).symm

/-- A power of ten is a finite double, and even the largest significand times that double is in range. -/
theorem powerOfTen_spec {n : ℕ} (hn : n < 309) :
    isFinite (powerOfTen n) = true
      ∧ (largestSignificand n : ℚ) * magnitude (powerOfTen n) ≤ (2 ^ 53 - 1 : ℕ) * 2 ^ (971 : ℤ) := by
  by_cases hmiddle : 22 < n ∧ n ≤ 288
  · obtain ⟨hfinite, hle⟩ := middle_powerOfTen_spec hmiddle.1 hmiddle.2
    refine ⟨hfinite, ?_⟩
    rw [largestSignificand, if_pos (by omega)]
    calc ((10 ^ 17 : ℕ) : ℚ) * magnitude (powerOfTen n)
        ≤ (10 ^ 17 : ℕ) * 2 ^ 960 := mul_le_mul_of_nonneg_left hle (Nat.cast_nonneg _)
      _ ≤ ((2 ^ 53 - 1 : ℕ) * 2 ^ 11) * 2 ^ 960 := mul_le_mul_of_nonneg_right (by norm_num) (by positivity)
      _ = (2 ^ 53 - 1 : ℕ) * 2 ^ (11 + 960) := by rw [pow_add, mul_assoc]
      _ = (2 ^ 53 - 1 : ℕ) * 2 ^ (971 : ℤ) := rfl
  · refine productFits_spec (List.all_eq_true.mp all_productFits n ?_)
    rw [List.mem_append, List.mem_range, List.mem_map]
    by_cases hfew : n < 23
    · exact Or.inl hfew
    · exact Or.inr ⟨n - 289, List.mem_range.mpr (by omega), by omega⟩

/-- Digits that spell a number up to the midpoint can be scaled. -/
theorem isSome_scaled_of_le {c n : ℕ} (hdigits : c ≤ 10 ^ 17) (hle : c * 10 ^ n ≤ lastMidpoint) :
    (scaled c n).isSome = true := by
  rw [scaled, if_pos (Int.natCast_nonneg n), Int.toNat_natCast, multiplyByPower]
  rcases Nat.eq_zero_or_pos c with rfl | hpos
  · rw [if_pos (by decide)]
    rfl
  · have hn : n < 309 := by
      have hpower : 10 ^ n ≤ lastMidpoint := (Nat.le_mul_of_pos_left _ hpos).trans hle
      have hrange : lastMidpoint < 10 ^ 309 := by decide +kernel
      exact (pow_lt_pow_iff_right₀ (by decide)).mp (hpower.trans_lt hrange)
    obtain ⟨hpower, hfits⟩ := powerOfTen_spec hn
    have hlargest : (c : ℚ) ≤ largestSignificand n := by exact_mod_cast le_largestSignificand hdigits hle
    obtain ⟨hfinite, hbound⟩ := ofNat_spec (isMagnitude_largestSignificand n) hlargest
    have hproduct : isFinite (Float.ofNat c * powerOfTen n) = true := by
      refine (mul_spec hfinite hpower ⟨2 ^ 53 - 1, 971, by decide, by decide, le_refl _, rfl⟩ ?_).1
      exact (mul_le_mul_of_nonneg_right hbound (magnitude_nonneg _)).trans hfits
    split_ifs
    · rfl
    · omega
    · simp only [hproduct, if_true]
      rfl

/-! ## The digits of a double -/

/-- Laid out in JSON, at most seventeen digits have a value if scaling them gives a number. -/
theorem isSome_numeral_of_laidOut {d : Decimal} {l : Literal} (h : Decimal.LaidOut .json d l)
    (hdigits : d.coefficient ≤ 10 ^ 17)
    (hscaled : ∀ n : ℕ, d.exponent = n → (scaled d.coefficient n).isSome = true) :
    l.numeral.isSome = true := by
  rcases h with ⟨hexponent, hle, hlayout⟩ | ⟨-, hsignificand, hpower⟩
  · -- written out, with zeros up to the point, it is short enough to be a whole number of the machine
    refine isSome_numeral ?_ (Or.inl hexponent)
    refine Nat.lt_of_le_of_lt (hle.trans ?_) (by decide : 10 ^ 18 < UInt64.size)
    rcases hlayout with hzero | hpositional
    · rw [hzero, Nat.zero_mul]
      exact Nat.zero_le _
    · simp only [Decimal.Style.json, Bool.and_eq_true, decide_eq_true_eq] at hpositional
      have hlength : 0 < (Decimal.digits d.coefficient).length := Nat.length_toDigits_pos
      have hcoefficient : d.coefficient < 10 ^ (Decimal.digits d.coefficient).length :=
        (Nat.length_toDigits_le_iff (by decide) hlength).mp (le_refl _)
      rcases Int.lt_or_le d.exponent 0 with hneg | hnonneg
      · rw [Int.toNat_of_nonpos hneg.le]
        exact Nat.mul_le_mul_right _ hdigits
      · calc d.coefficient * 10 ^ (d.exponent.toNat + 1)
            ≤ 10 ^ (Decimal.digits d.coefficient).length * 10 ^ (d.exponent.toNat + 1) :=
              Nat.mul_le_mul_right _ hcoefficient.le
          _ = 10 ^ ((Decimal.digits d.coefficient).length + (d.exponent.toNat + 1)) := (Nat.pow_add ..).symm
          _ ≤ 10 ^ 18 := Nat.pow_le_pow_right (by decide) (by omega)
  · -- with an exponent the digits are few, and scaling them was asked for
    refine isSome_numeral ?_ (Or.inr ?_)
    · rw [hsignificand]
      exact Nat.lt_of_le_of_lt hdigits (by decide)
    · rw [hsignificand, hpower]
      rcases Int.lt_or_le d.exponent 0 with hneg | hnonneg
      · exact isSome_scaled_of_neg _ hneg
      · rw [← Int.toNat_of_nonneg hnonneg]
        exact hscaled _ (Int.toNat_of_nonneg hnonneg).symm

/-- Only one double reaches beyond the last midpoint. -/
theorem le_lastMidpoint {m : ℕ} {e : ℤ} (hshort : m < 2 ^ 53) (he : e ≤ 971)
    (hlargest : ¬(m = 2 ^ 53 - 1 ∧ e = 971)) : ((m : ℚ) + 1 / 2) * 2 ^ e ≤ lastMidpoint := by
  have hmidpoint : (lastMidpoint : ℚ) = (2 ^ 54 - 3) * 2 ^ (970 : ℤ) := by
    rw [lastMidpoint, Nat.cast_mul, Nat.cast_pow, zpow_ofNat]
    norm_num only [Nat.cast_ofNat]
  rw [hmidpoint]
  rcases Int.lt_or_eq_of_le he with hsmaller | rfl
  · have hsize : (m : ℚ) + 1 ≤ 2 ^ 53 := by exact_mod_cast hshort
    have hpower : (2 : ℚ) ^ e ≤ 2 ^ (970 : ℤ) := zpow_le_zpow_right₀ (by norm_num) (by omega)
    exact mul_le_mul (by linarith) hpower (by positivity) (by norm_num)
  · have hsize : (m : ℚ) + 2 ≤ 2 ^ 53 := by
      have hbelow : m + 2 ≤ 2 ^ 53 := by omega
      exact_mod_cast hbelow
    have hpower : (2 : ℚ) ^ (971 : ℤ) = 2 * 2 ^ (970 : ℤ) := by
      rw [← zpow_one_add₀ (by norm_num)]
      norm_num
    rw [hpower, ← mul_assoc]
    exact mul_le_mul_of_nonneg_right (by linarith) (by positivity)

/-- The shortest digits of a double can be scaled. -/
theorem isSome_scaled_shortest {m : ℕ} {e : ℤ} (hm : 0 < m) (hshort : m < 2 ^ 53) (he : e ≤ 971) {n : ℕ}
    (hn : (Decimal.shortest Decimal.Style.json.tie m e).exponent = n) :
    (scaled (Decimal.shortest Decimal.Style.json.tie m e).coefficient n).isSome = true := by
  by_cases hlargest : m = 2 ^ 53 - 1 ∧ e = 971
  · obtain ⟨rfl, rfl⟩ := hlargest
    have hdigits : Decimal.shortest Decimal.Style.json.tie (2 ^ 53 - 1) 971 = ⟨17976931348623157, 292⟩ := by
      decide +kernel
    rw [hdigits] at hn ⊢
    obtain rfl : 292 = n := Int.ofNat_inj.mp hn
    decide +kernel
  · obtain ⟨hle, hdigits⟩ := Decimal.shortest_spec Decimal.Style.json.tie (e := e) hm hshort
    refine isSome_scaled_of_le hdigits ?_
    rw [hn, zpow_natCast] at hle
    exact_mod_cast hle.trans (le_lastMidpoint hshort he hlargest)

/-- **The text of a finite double has a value.** -/
theorem isSome_numeral_ofReal {x : Float} (hx : isFinite x = true) : (ofReal x).numeral.isSome = true := by
  obtain ⟨-, -, hdigits⟩ := Json.ofReal_spec hx
  obtain ⟨negative, m, e, h⟩ := isFinite_iff_shape.mp hx
  obtain ⟨hshort, -, he, -⟩ := bounds_of_shape h
  rw [h] at hdigits
  cases m with
  | zero =>
      exact isSome_numeral_of_laidOut hdigits (Nat.zero_le _) fun n _ =>
        isSome_scaled_of_le (Nat.zero_le _) ((Nat.zero_mul _).trans_le (Nat.zero_le _))
  | succ m =>
      exact isSome_numeral_of_laidOut hdigits (Decimal.shortest_spec _ (Nat.succ_pos m) hshort).2
        fun n hn => isSome_scaled_shortest (Nat.succ_pos m) hshort he hn

end Appraisal.Literal
