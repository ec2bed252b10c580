/-
Whole numbers the way people type them into a setting: ASCII digits, and a sign in front if they like.

Leading zeros mean nothing, and nothing else may stand beside the digits, not even a blank.
-/

set_option autoImplicit false

namespace Appraisal.Text

/-- The number with the given digits; at least one is needed. -/
def digits? (cs : List Char) : Option Nat :=
  if cs.isEmpty || !cs.all Char.isDigit then none
  else some (cs.foldl (fun n c => 10 * n + (c.toNat - '0'.toNat)) 0)

/-- A natural number, perhaps with a plus sign. -/
def natural? (text : String) : Option Nat :=
  match text.toList with
  | '+' :: cs => digits? cs
  | cs => digits? cs

/-- An integer, perhaps with a sign. -/
def integer? (text : String) : Option Int :=
  match text.toList with
  | '-' :: cs => (digits? cs).map fun n => -(n : Int)
  | _ => (natural? text).map Int.ofNat

end Appraisal.Text
