/-
How a double is written: which of its digits, and where the point goes.

Two texts of a double are used. In JSON a double keeps its shortest digits, positional from `1e-5` up to
but not including `1e16` and with an exponent outside, and a whole number keeps its `.0`, so that the text
says that it is no integer. In a sentence a double keeps its shortest digits too but never has an exponent
and never a `.0`. Of two equally near decimals JSON takes the even one and a sentence the larger one. The
record `Style` holds exactly the points in which the two differ.

Rounded to a fixed number of places, a double is rounded once, from its exact binary value, and a half goes
to the even digit. A minus sign is kept in every form, also on a zero.
-/
import Appraisal.Decimal.Shortest

set_option autoImplicit false

namespace Appraisal.Decimal

/-! ## Digits as characters -/

/-- The decimal digits of a natural. -/
def digits (n : Nat) : List Char :=
  Nat.toDigits 10 n

/-- So many zeros. -/
def zeros (count : Nat) : List Char :=
  List.replicate count '0'

/-! ## Styles -/

/-- What is open in the text of a double once its digits are known. -/
structure Style where
  /-- Is a number whose leading digit counts `10 ^ power` written without an exponent? -/
  positional : Int → Bool
  /-- Does a whole number end in `.0`? -/
  pointZero : Bool
  /-- Which of two equally near decimals is taken? -/
  tie : Tie

/-- Doubles inside JSON. -/
def Style.json : Style :=
  ⟨fun power => decide (-5 ≤ power) && decide (power ≤ 15), true, .toEven⟩

/-- Doubles inside a sentence. -/
def Style.sentence : Style :=
  ⟨fun _ => true, false, .up⟩

/-- The digits with a point among, before or after them. -/
def positionalText (pointZero : Bool) (d : Decimal) : List Char :=
  let ds := digits d.coefficient
  if 0 ≤ d.exponent then
    ds ++ zeros d.exponent.toNat ++ (if pointZero then ['.', '0'] else [])
  else
    let places := (-d.exponent).toNat
    if places < ds.length then ds.take (ds.length - places) ++ ['.'] ++ ds.drop (ds.length - places)
    else ['0', '.'] ++ zeros (places - ds.length) ++ ds

/-- One digit before the point, the others behind it, and the power of ten with its sign. -/
def scientificText (d : Decimal) : List Char :=
  let ds := digits d.coefficient
  let power := d.exponent + ds.length - 1
  let behind := ds.drop 1
  ds.take 1 ++ (if behind.isEmpty then [] else ['.'] ++ behind)
    ++ ['e', if power < 0 then '-' else '+'] ++ digits power.natAbs

/-- A decimal in the given style. -/
def Style.text (style : Style) (d : Decimal) : List Char :=
  if d.coefficient = 0 then positionalText style.pointZero ⟨0, 0⟩
  else if style.positional (d.exponent + (digits d.coefficient).length - 1) then
    positionalText style.pointZero d
  else scientificText d

/-- The sign in front of a number. -/
def signText (negative : Bool) : List Char :=
  if negative then ['-'] else []

/-- A double in the given style; what is no number at all has a name in every style. -/
def Style.float (style : Style) (x : Float) : String :=
  match Binary64.shape x with
  | .notANumber => "NaN"
  | .infinite negative => String.ofList (signText negative ++ ['i', 'n', 'f'])
  | .finite negative 0 _ => String.ofList (signText negative ++ style.text ⟨0, 0⟩)
  | .finite negative mantissa exponent =>
    String.ofList (signText negative ++ style.text (shortest style.tie mantissa exponent))

/-- A double the way a sentence shows it. -/
def plain (x : Float) : String :=
  Style.sentence.float x

/-! ## A fixed number of places -/

/-- A natural number of units of the last place, with the point put back in. -/
def unitsText (places units : Nat) : List Char :=
  let ds := digits units
  let padded := zeros (places + 1 - ds.length) ++ ds
  let whole := padded.take (padded.length - places)
  if places = 0 then whole else whole ++ ['.'] ++ padded.drop (padded.length - places)

/-- A double rounded to so many places. -/
def fixed (places : Nat) (x : Float) : String :=
  match Binary64.shape x with
  | .notANumber => "NaN"
  | .infinite negative => String.ofList (signText negative ++ ['i', 'n', 'f'])
  | .finite negative mantissa exponent =>
    let units := Binary64.roundEven (mantissa * Nat.pow 2 exponent.toNat * Nat.pow 10 places)
      (Nat.pow 2 (-exponent).toNat)
    String.ofList (signText negative ++ unitsText places units)

end Appraisal.Decimal
