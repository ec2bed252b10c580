/-
Number literals and the numbers they stand for.

A literal is kept as its digits until somebody asks for its value, because `1` and `1.0` are different
answers to the question whether a count of days was given, and because a literal that is only passed over
may be too large for any value to exist.

A literal without point and exponent is an integer if it fits sixty-four bits (from `-2 ^ 63` up to
`2 ^ 64 - 1`); `-0` and everything else is a double. The double is computed in two steps: the leading
digits that fit sixty-four bits become a double, which is then multiplied or divided by a power of ten.
Each step rounds, so for very long literals the result can be a neighbour of the nearest double; for
literals of up to fifteen digits and exponents up to twenty-two both steps are exact or round once.
-/
import Appraisal.Decimal.Binary64

set_option autoImplicit false

namespace Appraisal

/-- A number literal, digit by digit. `whole` is never empty; `fraction` is empty when there is no point;
the exponent has a sign (`true` for a minus) and at least one digit. -/
structure Literal where
  negative : Bool
  whole : List Char
  fraction : List Char
  exponent : Option (Bool × List Char)
  deriving DecidableEq

/-- The number that a literal stands for. -/
inductive Numeral where
  | natural (n : Nat)
  | negative (n : Int)
  | real (x : Float)

namespace Literal

/-! ## Digits -/

/-- The value of a decimal digit. -/
def digitValue (c : Char) : Nat :=
  c.toNat - '0'.toNat

/-- Appends digits to a number as long as it stays below `2 ^ 64`; the first digit that does not fit ends
this, and the number of digits left over is returned as well. -/
def gather (n : Nat) : List Char → Nat × Nat
  | [] => (n, 0)
  | c :: cs =>
    if 10 * n + digitValue c < UInt64.size then gather (10 * n + digitValue c) cs
    else (n, cs.length + 1)

/-- The natural number with the given digits. -/
def natOfDigits (cs : List Char) : Nat :=
  cs.foldl (fun n c => 10 * n + digitValue c) 0

/-! ## Doubles -/

/-- The double nearest to a power of ten. -/
def powerOfTen (n : Nat) : Float :=
  Float.ofScientific 1 false n

/-- A double divided by `10 ^ n`, in steps that a double can hold. The largest significand is below
`10 ^ 20`, so two divisions by `10 ^ 308` leave zero and further ones change nothing. -/
def divideByPower (x : Float) (n : Nat) : Float :=
  let steps := (n - 1) / 308
  Nat.repeat (· / powerOfTen 308) (min steps 2) x / powerOfTen (n - 308 * steps)

/-- A double multiplied by `10 ^ n`; nothing if the product is too large. -/
def multiplyByPower (x : Float) (n : Nat) : Option Float :=
  if x == 0 then some x
  else if 308 < n then none
  else
    let product := x * powerOfTen n
    if Binary64.isFinite product then some product else none

/-- The double `significand · 10 ^ power`, computed by one conversion and one scaling. -/
def scaled (significand : Nat) (power : Int) : Option Float :=
  let x := Float.ofNat significand
  if 0 ≤ power then multiplyByPower x power.toNat else some (divideByPower x (-power).toNat)

/-- The sign put onto a double. -/
def signed (negative : Bool) (x : Float) : Float :=
  if negative then -x else x

/-! ## The number -/

/-- The exponent written behind an `e`, or zero. -/
def power (l : Literal) : Int :=
  match l.exponent with
  | none => 0
  | some (true, ds) => -(natOfDigits ds : Int)
  | some (false, ds) => natOfDigits ds

/-- The number of a literal; nothing if it is larger than every double. -/
def numeral (l : Literal) : Option Numeral :=
  let (leading, left) := gather 0 l.whole
  if l.fraction = [] ∧ l.exponent = none ∧ left = 0 then
    some <|
      if !l.negative then .natural leading
      else if 0 < leading ∧ leading ≤ Nat.pow 2 63 then .negative (-(leading : Int))
      else .real (-Float.ofNat leading)
  else
    let (significand, behind) := gather leading l.fraction
    let shift : Int := (left : Int) - ((l.fraction.length : Int) - behind)
    (scaled significand (l.power + shift)).map fun x => .real (signed l.negative x)

end Literal

/-- The number as a double. -/
def Numeral.toFloat : Numeral → Float
  | .natural n => Float.ofNat n
  | .negative n => -Float.ofNat n.natAbs
  | .real x => x

end Appraisal
