/-
The shortest digits of a double lie in its interval.

The search for the shortest digits tries grids of decimals, one digit, two, up to seventeen, and asks in each
grid the two points around the double. The grid with seventeen digits is finer than the interval of reals that
read back as the double: its points are at most a `10 ^ 16`th of the double apart, and the interval is wider
than that. So one of the two points lies in the interval, the search succeeds, and whatever it finds is at
most the upper end of the interval (`shortest_spec`).

The definitions clear denominators and compare naturals. Here the same is said about rationals.
-/
import Mathlib.Algebra.Order.Field.Power
import Mathlib.Data.Rat.Defs
import Mathlib.Tactic.FieldSimp
import Mathlib.Tactic.Linarith
import Mathlib.Tactic.NormNum
import Mathlib.Tactic.Ring
import Appraisal.Decimal.Shortest

set_option autoImplicit false

namespace Appraisal.Decimal

/-! ## Powers with an exponent of either sign -/

/-- Powers are split into a numerator and a denominator by the sign of the exponent. -/
theorem pow_toNat_div_pow_toNat (b : ℚ) (z : ℤ) : b ^ z.toNat / b ^ (-z).toNat = b ^ z := by
  rcases Int.le_total 0 z with hz | hz
  · have hneg : (-z).toNat = 0 := by omega
    rw [hneg, pow_zero, div_one, ← zpow_natCast, Int.toNat_of_nonneg hz]
  · have hpos : z.toNat = 0 := by omega
    rw [hpos, pow_zero, one_div, ← zpow_natCast, Int.toNat_of_nonneg (by omega), zpow_neg, inv_inv]

/-! ## Counting digits -/

theorem digitCount_spec {n : ℕ} (hn : 0 < n) :
    0 < digitCount n ∧ 10 ^ (digitCount n - 1) ≤ n ∧ n < 10 ^ digitCount n := by
  have hpos : 0 < digitCount n := Nat.length_toDigits_pos
  refine ⟨hpos, ?_, (Nat.length_toDigits_le_iff (by decide) hpos).mp (le_refl _)⟩
  rcases Nat.eq_zero_or_pos (digitCount n - 1) with hone | hmore
  · rw [hone]
    exact hn
  · by_contra hlt
    have hle := (Nat.length_toDigits_le_iff (by decide) hmore).mpr (not_le.mp hlt)
    exact absurd hle (by unfold digitCount at hpos ⊢; omega)

/-! ## Intervals -/

namespace Interval

variable (i : Interval)

/-- The double itself. -/
def center : ℚ := i.value / i.scale

/-- The midpoint to the neighbour below. -/
def bottom : ℚ := i.lower / i.scale

/-- The midpoint to the neighbour above. -/
def top : ℚ := i.upper / i.scale

variable {i}

/-- The magnitude counts the digits of the double before its point. -/
theorem magnitude_spec (hscale : 0 < i.scale) (hvalue : 0 < i.value) :
    (10 : ℚ) ^ (i.magnitude - 1) ≤ i.center ∧ i.center < 10 ^ i.magnitude := by
  have hscaleq : (0 : ℚ) < i.scale := by exact_mod_cast hscale
  have hvalueq : (0 : ℚ) < i.value := by exact_mod_cast hvalue
  rw [center, le_div_iff₀ hscaleq, div_lt_iff₀ hscaleq, magnitude]
  split
  · -- before the point: the digits of the whole part are counted
    next hle =>
      obtain ⟨hpos, hlower, hupper⟩ := digitCount_spec (Nat.div_pos hle hscale)
      have hexponent : ((digitCount (i.value / i.scale) : ℤ) - 1)
          = (digitCount (i.value / i.scale) - 1 : ℕ) := by
        omega
      rw [hexponent, zpow_natCast, zpow_natCast]
      constructor
      · exact_mod_cast (Nat.le_div_iff_mul_le hscale).mp hlower
      · exact_mod_cast (Nat.div_lt_iff_lt_mul hscale).mp hupper
  · -- behind the point: the zeros are counted, by the digits of how often the double goes into one
    next hlt =>
      obtain ⟨hpos, hlower, hupper⟩ := digitCount_spec (Nat.div_pos (by omega : i.value ≤ i.scale - 1) hvalue)
      generalize digitCount ((i.scale - 1) / i.value) = count at *
      rw [Nat.le_div_iff_mul_le hvalue] at hlower
      rw [Nat.div_lt_iff_lt_mul hvalue] at hupper
      have hten : (0 : ℚ) < 10 ^ count := by positivity
      constructor
      · rw [show (1 - (count : ℤ) - 1) = -(count : ℤ) by omega, zpow_neg, zpow_natCast, inv_mul_le_iff₀ hten]
        exact_mod_cast (by omega : i.scale ≤ 10 ^ count * i.value)
      · have hstep : (10 : ℚ) ^ (count - 1) * i.value < i.scale := by
          exact_mod_cast (by omega : 10 ^ (count - 1) * i.value < i.scale)
        rw [show (1 - (count : ℤ)) = -((count - 1 : ℕ) : ℤ) by omega, zpow_neg, zpow_natCast,
          ← div_eq_inv_mul, lt_div_iff₀ (by positivity), mul_comm]
        exact hstep

/-- Comparing naturals instead of quotients, from below. -/
theorem mul_le_point_iff (hscale : 0 < i.scale) (a c : ℕ) (p : ℤ) :
    a * 10 ^ (-p).toNat ≤ c * 10 ^ p.toNat * i.scale ↔ (a : ℚ) / i.scale ≤ c * 10 ^ p := by
  have hscaleq : (0 : ℚ) < i.scale := by exact_mod_cast hscale
  rw [← pow_toNat_div_pow_toNat 10, ← mul_div_assoc,
    div_le_div_iff₀ hscaleq (by positivity)]
  exact_mod_cast Iff.rfl

/-- The same from above. -/
theorem point_le_mul_iff (hscale : 0 < i.scale) (a c : ℕ) (p : ℤ) :
    c * 10 ^ p.toNat * i.scale ≤ a * 10 ^ (-p).toNat ↔ (c : ℚ) * 10 ^ p ≤ a / i.scale := by
  have hscaleq : (0 : ℚ) < i.scale := by exact_mod_cast hscale
  rw [← pow_toNat_div_pow_toNat 10, ← mul_div_assoc,
    div_le_div_iff₀ (by positivity) hscaleq]
  exact_mod_cast Iff.rfl

/-- What the interval holds is not above its end. -/
theorem le_top_of_holds (hscale : 0 < i.scale) {c : ℕ} {p : ℤ} (h : i.holds c p = true) :
    (c : ℚ) * 10 ^ p ≤ i.top := by
  rw [top, ← point_le_mul_iff hscale]
  simp only [holds, Nat.pow_eq] at h
  split at h
  · exact (by simpa using h : _ ∧ _).2
  · exact le_of_lt (by simpa using h : _ ∧ _).2

/-- What the interval does not hold is not inside. -/
theorem outside_of_not_holds (hscale : 0 < i.scale) {c : ℕ} {p : ℤ} (h : i.holds c p = false) :
    (c : ℚ) * 10 ^ p ≤ i.bottom ∨ i.top ≤ c * 10 ^ p := by
  rw [bottom, top, ← point_le_mul_iff hscale, ← mul_le_point_iff hscale]
  simp only [holds, Nat.pow_eq] at h
  split at h
  · simp only [Bool.and_eq_false_iff, decide_eq_false_iff_not] at h
    omega
  · simp only [Bool.and_eq_false_iff, decide_eq_false_iff_not] at h
    omega

end Interval

/-- The interval of a double in rationals. Only next to a power of two the gap below can be the smaller one. -/
theorem interval_spec {m : ℕ} (hm : 0 < m) (e : ℤ) :
    0 < (interval m e).scale ∧ (interval m e).center = m * 2 ^ e
      ∧ (interval m e).top = (m + 1 / 2) * 2 ^ e
      ∧ (interval m e).bottom ≤ (m - if m = 2 ^ 52 then 1 / 4 else 1 / 2) * 2 ^ e := by
  -- the double and both midpoints are counted in quarters of the last place
  have hratio : (2 : ℚ) ^ (e - 2).toNat / 2 ^ (2 - e).toNat = 2 ^ e / 4 := by
    have h := pow_toNat_div_pow_toNat 2 (e - 2)
    rw [neg_sub] at h
    rw [h, zpow_sub₀ two_ne_zero]
    norm_num
  have hquarters : ∀ a : ℕ, ((a * Nat.pow 2 (e - 2).toNat : ℕ) : ℚ) / (Nat.pow 2 (2 - e).toNat : ℕ)
      = a / 4 * 2 ^ e := by
    intro a
    rw [Nat.pow_eq, Nat.pow_eq, Nat.cast_mul, Nat.cast_pow, Nat.cast_pow, Nat.cast_ofNat, mul_div_assoc,
      hratio]
    ring
  have hpos : (0 : ℚ) < 2 ^ e := by positivity
  refine ⟨Nat.two_pow_pos _, ?_, ?_, ?_⟩
  · rw [Interval.center, interval, hquarters]
    push_cast
    ring
  · rw [Interval.top, interval, hquarters]
    push_cast
    ring
  · rw [Interval.bottom, interval, hquarters, mul_le_mul_iff_left₀ hpos, Nat.cast_sub (by split_ifs <;> omega)]
    by_cases hpower : m = 2 ^ 52
    · rw [if_pos hpower]
      split_ifs <;> push_cast <;> linarith
    · rw [if_neg hpower, if_neg (fun h => hpower h.1)]
      push_cast
      linarith

/-- Seventeen digits are finer than an interval: a `10 ^ 16`th of a double is less than its width. -/
theorem center_lt_width {m : ℕ} (hm : 0 < m) (hshort : m < 2 ^ 53) (e : ℤ) :
    (interval m e).center / 10 ^ 16 < (interval m e).top - (interval m e).bottom := by
  obtain ⟨_, hcenter, htop, hbottom⟩ := interval_spec hm e
  have hpos : (0 : ℚ) < 2 ^ e := by positivity
  have hm : (m : ℚ) < 2 ^ 53 := by exact_mod_cast hshort
  have hwidth : (m : ℚ) / 10 ^ 16 < 1 / 2 + if m = 2 ^ 52 then 1 / 4 else 1 / 2 := by
    split_ifs with hpower
    · rw [hpower]
      norm_num
    · linarith
  have hscaled := mul_lt_mul_of_pos_right hwidth hpos
  rw [hcenter, htop]
  linarith

/-! ## The search -/

namespace Interval

variable {i : Interval} {tie : Tie} {count : ℕ}

/-- The spacing of the grid with so many digits, as a power of ten. -/
def spacing (i : Interval) (count : ℕ) : ℤ :=
  i.magnitude - count

/-- The grid point below the double. -/
def below (i : Interval) (count : ℕ) : ℕ :=
  i.value * Nat.pow 10 (-i.spacing count).toNat / (i.scale * Nat.pow 10 (i.spacing count).toNat)

/-- The grid point above the double. -/
def above (i : Interval) (count : ℕ) : ℕ :=
  if i.value * Nat.pow 10 (-i.spacing count).toNat % (i.scale * Nat.pow 10 (i.spacing count).toNat) = 0 then
    i.below count
  else i.below count + 1

/-- The double lies between the two grid points, which are not farther apart than the grid. -/
theorem grid_spec (hscale : 0 < i.scale) (hvalue : 0 < i.value) (count : ℕ) :
    (i.below count : ℚ) * 10 ^ i.spacing count ≤ i.center
      ∧ i.center ≤ i.above count * 10 ^ i.spacing count
      ∧ i.above count ≤ i.below count + 1 ∧ i.below count ≤ i.above count
      ∧ i.above count ≤ 10 ^ count := by
  obtain ⟨-, hmagnitude⟩ := magnitude_spec hscale hvalue
  have hstep : (0 : ℚ) < 10 ^ i.spacing count := by positivity
  -- the double in units of the grid
  have hquotient : ((i.value * Nat.pow 10 (-i.spacing count).toNat : ℕ) : ℚ)
      / (i.scale * Nat.pow 10 (i.spacing count).toNat : ℕ) = i.center / 10 ^ i.spacing count := by
    rw [← pow_toNat_div_pow_toNat 10, center, Nat.pow_eq, Nat.pow_eq]
    push_cast
    rw [div_div_div_eq]
  have hupper : i.center / 10 ^ i.spacing count < 10 ^ count := by
    rw [div_lt_iff₀ hstep, ← zpow_natCast, ← zpow_add₀ (by norm_num), spacing, add_sub_cancel]
    exact hmagnitude
  have hdenominator : 0 < i.scale * Nat.pow 10 (i.spacing count).toNat :=
    Nat.mul_pos hscale (Nat.pow_pos (by decide))
  rw [← le_div_iff₀ hstep, ← div_le_iff₀ hstep]
  rw [← hquotient] at hupper ⊢
  rw [above, below]
  generalize i.value * Nat.pow 10 (-i.spacing count).toNat = numerator at *
  generalize i.scale * Nat.pow 10 (i.spacing count).toNat = denominator at *
  have hdenominatorq : (0 : ℚ) < denominator := by exact_mod_cast hdenominator
  rw [div_lt_iff₀ hdenominatorq] at hupper
  have hcount : numerator < 10 ^ count * denominator := by exact_mod_cast hupper
  have hbelow : numerator / denominator < 10 ^ count := (Nat.div_lt_iff_lt_mul hdenominator).mpr hcount
  rw [le_div_iff₀ hdenominatorq, div_le_iff₀ hdenominatorq]
  refine ⟨by exact_mod_cast Nat.div_mul_le_self numerator denominator, ?_, ?_, ?_, ?_⟩
  · split_ifs with hexact
    · exact_mod_cast (Nat.div_mul_cancel (Nat.dvd_of_mod_eq_zero hexact)).ge
    · exact_mod_cast (Nat.lt_mul_of_div_lt (Nat.lt_succ_self _) hdenominator).le
  · split_ifs <;> omega
  · split_ifs <;> omega
  · split_ifs <;> omega

/-- A grid point as a decimal; a power of ten is shortened to one digit. -/
def decimalAt (i : Interval) (count c : ℕ) : Decimal :=
  if c = Nat.pow 10 count then ⟨1, i.spacing count + count⟩ else ⟨c, i.spacing count⟩

/-- Each of the two grid points is taken if it alone lies in the interval, and one of them if both do. -/
theorem exists_hit_eq (i : Interval) (tie : Tie) (count : ℕ) : ∃ isBelowNearer : Bool, i.hit tie count =
    match i.holds (i.below count) (i.spacing count), i.holds (i.above count) (i.spacing count) with
    | true, true => some (i.decimalAt count (if isBelowNearer then i.below count else i.above count))
    | true, false => some (i.decimalAt count (i.below count))
    | false, true => some (i.decimalAt count (i.above count))
    | false, false => none :=
  ⟨_, rfl⟩

/-- What is found is a grid point in the interval. -/
theorem hit_eq_some {d : Decimal} (h : i.hit tie count = some d) :
    ∃ c, (c = i.below count ∨ c = i.above count) ∧ i.holds c (i.spacing count) = true
      ∧ d = i.decimalAt count c := by
  obtain ⟨isBelowNearer, heq⟩ := exists_hit_eq i tie count
  rw [heq] at h
  cases hbelow : i.holds (i.below count) (i.spacing count) <;>
    cases habove : i.holds (i.above count) (i.spacing count) <;> rw [hbelow, habove] at h
  case false.false => exact absurd h nofun
  case false.true => exact ⟨_, Or.inr rfl, habove, (Option.some.inj h).symm⟩
  case true.false => exact ⟨_, Or.inl rfl, hbelow, (Option.some.inj h).symm⟩
  case true.true =>
    cases isBelowNearer with
    | true => exact ⟨_, Or.inl rfl, hbelow, (Option.some.inj h).symm⟩
    | false => exact ⟨_, Or.inr rfl, habove, (Option.some.inj h).symm⟩

/-- Nothing is found only if both grid points lie outside. -/
theorem hit_eq_none (h : i.hit tie count = none) :
    i.holds (i.below count) (i.spacing count) = false ∧ i.holds (i.above count) (i.spacing count) = false := by
  obtain ⟨isBelowNearer, heq⟩ := exists_hit_eq i tie count
  rw [heq] at h
  cases hbelow : i.holds (i.below count) (i.spacing count) <;>
    cases habove : i.holds (i.above count) (i.spacing count) <;> rw [hbelow, habove] at h
  case false.false => exact ⟨rfl, rfl⟩
  all_goals exact absurd h nofun

/-- What is found is at most the end of the interval, and has no more digits than were asked for. -/
theorem hit_spec (hscale : 0 < i.scale) (hvalue : 0 < i.value) {d : Decimal} (h : i.hit tie count = some d) :
    (d.coefficient : ℚ) * 10 ^ d.exponent ≤ i.top ∧ d.coefficient ≤ 10 ^ count := by
  obtain ⟨c, hc, hholds, rfl⟩ := hit_eq_some h
  have htop := le_top_of_holds hscale hholds
  obtain ⟨-, -, -, hbelow, habove⟩ := grid_spec hscale hvalue count
  have hle : c ≤ 10 ^ count := by
    rcases hc with rfl | rfl
    · exact hbelow.trans habove
    · exact habove
  rw [decimalAt]
  split_ifs with hpower
  · refine ⟨?_, Nat.one_le_pow _ _ (by decide)⟩
    rw [hpower, Nat.pow_eq] at htop
    push_cast at htop ⊢
    rw [one_mul, zpow_add₀ (by norm_num), mul_comm, zpow_natCast]
    exact htop
  · exact ⟨htop, hle⟩

/-- If the grid is finer than the interval is wide, one of the two points lies inside. -/
theorem hit_ne_none (hscale : 0 < i.scale) (hvalue : 0 < i.value) (hbottom : i.bottom < i.center)
    (htop : i.center < i.top) (hfine : (10 : ℚ) ^ i.spacing count < i.top - i.bottom) :
    i.hit tie count ≠ none := by
  intro h
  obtain ⟨hbelow, habove⟩ := hit_eq_none h
  obtain ⟨hle, hge, hstep, -, -⟩ := grid_spec hscale hvalue count
  have hbelow := (outside_of_not_holds hscale hbelow).resolve_right (not_le.mpr (hle.trans_lt htop))
  have habove := (outside_of_not_holds hscale habove).resolve_left (not_le.mpr (hbottom.trans_le hge))
  have hstep : (i.above count : ℚ) ≤ i.below count + 1 := by exact_mod_cast hstep
  have hspan := mul_le_mul_of_nonneg_right hstep (by positivity : (0 : ℚ) ≤ 10 ^ i.spacing count)
  linarith

end Interval

section Search

variable (tie : Tie) {m : ℕ} {e : ℤ}

theorem value_pos (hm : 0 < m) : 0 < (interval m e).value := by
  obtain ⟨-, hcenter, -, -⟩ := interval_spec hm e
  have hpos : 0 < (interval m e).center := by
    rw [hcenter]
    exact mul_pos (by exact_mod_cast hm) (by positivity)
  rw [Interval.center] at hpos
  exact Nat.pos_of_ne_zero fun h => by simp [h] at hpos

/-- Seventeen digits are always enough. -/
theorem hit_seventeen_ne_none (hm : 0 < m) (hshort : m < 2 ^ 53) : (interval m e).hit tie 17 ≠ none := by
  obtain ⟨hscale, hcenter, htop, hbottom⟩ := interval_spec hm e
  have hpos : (0 : ℚ) < 2 ^ e := by positivity
  refine Interval.hit_ne_none hscale (value_pos hm) ?_ ?_ ?_
  · rw [hcenter]
    refine hbottom.trans_lt (mul_lt_mul_of_pos_right ?_ hpos)
    split_ifs <;> linarith
  · rw [hcenter, htop]
    exact mul_lt_mul_of_pos_right (by linarith) hpos
  · -- the spacing is a `10 ^ 16`th of the largest power of ten that is not above the double
    obtain ⟨hmagnitude, -⟩ := Interval.magnitude_spec hscale (value_pos hm)
    have hexponent : (interval m e).spacing 17 + (16 : ℕ) = (interval m e).magnitude - 1 := by
      rw [Interval.spacing]
      omega
    refine lt_of_le_of_lt ?_ (center_lt_width hm hshort e)
    rw [le_div_iff₀ (by positivity), ← zpow_natCast, ← zpow_add₀ (by norm_num), hexponent]
    exact hmagnitude

/-- **The shortest digits of a double are at most the end of its interval**, and there are at most seventeen
of them. -/
theorem shortest_spec (hm : 0 < m) (hshort : m < 2 ^ 53) :
    ((shortest tie m e).coefficient : ℚ) * 10 ^ (shortest tie m e).exponent ≤ (m + 1 / 2) * 2 ^ e
      ∧ (shortest tie m e).coefficient ≤ 10 ^ 17 := by
  obtain ⟨hscale, -, htop, -⟩ := interval_spec hm e
  have hsearch : ∃ d, ((List.range 17).map (· + 1)).findSome? ((interval m e).hit tie) = some d := by
    rw [← Option.isSome_iff_exists, List.findSome?_isSome_iff]
    exact ⟨17, by decide, Option.isSome_iff_ne_none.mpr (hit_seventeen_ne_none tie hm hshort)⟩
  obtain ⟨d, hd⟩ := hsearch
  obtain ⟨count, hcount, hhit⟩ := List.exists_of_findSome?_eq_some hd
  obtain ⟨hle, hdigits⟩ := Interval.hit_spec hscale (value_pos hm) hhit
  have hcount : count ≤ 17 := by
    simp only [List.mem_map, List.mem_range] at hcount
    omega
  have heq : shortest tie m e = d := by
    rw [shortest, hd, Option.getD_some]
  rw [heq, ← htop]
  exact ⟨hle, hdigits.trans (Nat.pow_le_pow_right (by decide) hcount)⟩

end Search

end Appraisal.Decimal
