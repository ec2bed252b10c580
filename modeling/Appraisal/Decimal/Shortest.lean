/-
The fewest decimal digits that still name a double.

Every real number nearer to a double than to its neighbours reads back as that double, so a double may be
written as any decimal in that interval. Of those, the printed one has the fewest digits, and among the
decimals with that many digits it is the nearest to the double itself. The ends of the interval belong to
it exactly when the mantissa is even, because reading breaks its ties that way. Two decimals can be equally
near to a double from both sides; which of them is printed is left open here and is a parameter (`Tie`).

The search tries one digit, two, up to seventeen. A grid of decimals with `n` digits meets the interval
if and only if it does so in one of the two grid points around the double, so two candidates a grid are
enough; all comparisons are between naturals, after clearing denominators.
-/
import Appraisal.Decimal.Binary64

set_option autoImplicit false

namespace Appraisal

/-- The decimal number `coefficient · 10 ^ exponent`. -/
structure Decimal where
  coefficient : Nat
  exponent : Int
  deriving DecidableEq

namespace Decimal

/-- Which of two equally near decimals is taken. -/
inductive Tie where
  /-- The one whose last digit is even. -/
  | toEven
  /-- The larger one. -/
  | up
  deriving DecidableEq

/-- Is the smaller one of two equally near coefficients taken? -/
def Tie.takesLower (tie : Tie) (lower : Nat) : Bool :=
  match tie with
  | .toEven => lower % 2 = 0
  | .up => false

/-! ## Positive rationals with one denominator -/

/-- The reals that read back as a given positive double: `value / scale` is the double, `lower / scale`
and `upper / scale` are the midpoints to its neighbours, and `closed` says whether these belong. -/
structure Interval where
  lower : Nat
  value : Nat
  upper : Nat
  scale : Nat
  closed : Bool

/-- The interval of `mantissa · 2 ^ exponent`. The gap below a power of two is half the gap above it,
except at the bottom of the range, where the subnormal numbers go on with the same spacing. -/
def interval (mantissa : Nat) (exponent : Int) : Interval :=
  let narrow := mantissa = Nat.pow 2 52 ∧ exponent ≠ -1074
  let grow := Nat.pow 2 (exponent - 2).toNat
  { lower := (4 * mantissa - if narrow then 1 else 2) * grow
    value := 4 * mantissa * grow
    upper := (4 * mantissa + 2) * grow
    scale := Nat.pow 2 (2 - exponent).toNat
    closed := mantissa % 2 = 0 }

/-- How many decimal digits a natural has; `0` has one. -/
def digitCount (n : Nat) : Nat :=
  (Nat.toDigits 10 n).length

/-- The `p` with `10 ^ (p - 1) ≤ value / scale < 10 ^ p`. -/
def Interval.magnitude (i : Interval) : Int :=
  if i.scale ≤ i.value then digitCount (i.value / i.scale)
  else 1 - (digitCount ((i.scale - 1) / i.value) : Int)

/-- Does `coefficient · 10 ^ power` lie in the interval? -/
def Interval.holds (i : Interval) (coefficient : Nat) (power : Int) : Bool :=
  let point := coefficient * Nat.pow 10 power.toNat * i.scale
  let shrink := Nat.pow 10 (-power).toNat
  if i.closed then i.lower * shrink ≤ point && point ≤ i.upper * shrink
  else i.lower * shrink < point && point < i.upper * shrink

/-- The decimal with `count` digits that names the double best, if one with that many names it at all. -/
def Interval.hit (i : Interval) (tie : Tie) (count : Nat) : Option Decimal :=
  let power := i.magnitude - count
  let numerator := i.value * Nat.pow 10 (-power).toNat
  let denominator := i.scale * Nat.pow 10 power.toNat
  let below := numerator / denominator
  let rest := numerator % denominator
  let above := if rest = 0 then below else below + 1
  let decimal (coefficient : Nat) : Decimal :=
    if coefficient = Nat.pow 10 count then ⟨1, power + count⟩ else ⟨coefficient, power⟩
  let isBelowNearer :=
    decide (2 * rest < denominator) || (decide (2 * rest = denominator) && tie.takesLower below)
  match i.holds below power, i.holds above power with
  | true, true => some (decimal (if isBelowNearer then below else above))
  | true, false => some (decimal below)
  | false, true => some (decimal above)
  | false, false => none

/-! ## The digits of a double -/

/-- The shortest decimal that reads back as the positive double `mantissa · 2 ^ exponent`. Seventeen
digits are always enough, so the value for an unsuccessful search is never taken. -/
def shortest (tie : Tie) (mantissa : Nat) (exponent : Int) : Decimal :=
  let i := interval mantissa exponent
  (((List.range 17).map (· + 1)).findSome? (i.hit tie)).getD ⟨mantissa, exponent⟩

end Decimal

end Appraisal
