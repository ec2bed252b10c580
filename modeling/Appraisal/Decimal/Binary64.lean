/-
A double taken apart into a sign, a whole mantissa and a power of two.

Prices are doubles, and everything this library says about a price beyond adding and comparing (its
digits, its nearest whole number) is computed from the three parts in exact arithmetic on naturals. The
decimal text of a double and its rounding are therefore ordinary definitions, and a closed instance of
either evaluates in a proof.

A double that is neither infinite nor a NaN has the value `mantissa · 2 ^ exponent` up to sign. The
exponent is `-1074` for the subnormal numbers and zero, whose mantissa has no leading one, and at least
that for all others.
-/

set_option autoImplicit false

namespace Appraisal.Binary64

/-! ## The parts of a double -/

/-- What the bits of a double say. Zero is the finite double with mantissa `0`. -/
inductive Shape where
  | notANumber
  | infinite (negative : Bool)
  | finite (negative : Bool) (mantissa : Nat) (exponent : Int)
  deriving DecidableEq

/-- The parts of a double: one bit of sign, eleven of exponent, fifty-two of mantissa. -/
def shape (x : Float) : Shape :=
  let bits : Nat := x.toBits.toNat
  let negative := decide (Nat.pow 2 63 ≤ bits)
  let field : Nat := bits / Nat.pow 2 52 % Nat.pow 2 11
  let fraction : Nat := bits % Nat.pow 2 52
  if field = 2047 then
    if fraction = 0 then .infinite negative else .notANumber
  else if field = 0 then .finite negative fraction (-1074)
  else .finite negative (Nat.pow 2 52 + fraction) ((field : Int) - 1075)

/-- A double is finite when it is neither infinite nor a NaN. -/
def isFinite (x : Float) : Bool :=
  match shape x with
  | .finite .. => true
  | _ => false

theorem isFinite_iff_shape {x : Float} :
    isFinite x = true ↔ ∃ negative mantissa exponent, shape x = .finite negative mantissa exponent := by
  rw [isFinite]
  cases shape x with
  | notANumber => exact iff_of_false Bool.false_ne_true nofun
  | infinite negative => exact iff_of_false Bool.false_ne_true nofun
  | finite negative mantissa exponent => exact iff_of_true rfl ⟨_, _, _, rfl⟩

theorem isFinite_of_shape {x : Float} {negative : Bool} {mantissa : Nat} {exponent : Int}
    (h : shape x = .finite negative mantissa exponent) : isFinite x = true :=
  isFinite_iff_shape.mpr ⟨_, _, _, h⟩

/-! ## Rounding to whole numbers -/

/-- The quotient of two naturals rounded to the nearest one; of two equally near, the even one. -/
def roundEven (numerator denominator : Nat) : Nat :=
  let quotient := numerator / denominator
  let rest := numerator % denominator
  if 2 * rest < denominator then quotient
  else if denominator < 2 * rest then quotient + 1
  else quotient + quotient % 2

/-- The nearest whole number, a half going away from zero. A double with exponent `0` or more is whole
already; below that the mantissa has fewer than fifty-three bits left before the point, so the rounded
number is a double again. The sign stays, also on a zero. -/
def roundAway (x : Float) : Float :=
  match shape x with
  | .finite negative mantissa exponent =>
    if 0 ≤ exponent then x
    else
      let half := Nat.pow 2 (-exponent - 1).toNat
      let whole := Float.ofNat ((mantissa + half) / (2 * half))
      if negative then -whole else whole
  | _ => x

end Appraisal.Binary64
