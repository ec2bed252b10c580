/-
White space, and the two ways this library lets text be spelled loosely: blanks around a value and the
case of its ASCII letters.

The set of blanks is the Unicode property `White_Space`, twenty-five code points. It is a table and not
a call to `Char.isWhitespace` because that function knows only the ASCII ones, while a timestamp or a
cache size copied out of a document may well be wrapped in a no-break or an ideographic space.

Trimming is `dropWhile` from both ends, so what is left neither starts nor ends with a blank, and a
blank inside the text stays where it is.
-/

set_option autoImplicit false

namespace Appraisal.Text

/-! ## Blanks -/

/-- The code points of white space, as closed ranges in increasing order. -/
def blankRanges : List (Nat × Nat) :=
  [(0x09, 0x0d), (0x20, 0x20), (0x85, 0x85), (0xa0, 0xa0), (0x1680, 0x1680), (0x2000, 0x200a),
   (0x2028, 0x2029), (0x202f, 0x202f), (0x205f, 0x205f), (0x3000, 0x3000)]

/-- Is `n` inside one of the closed ranges? -/
def inRanges (ranges : List (Nat × Nat)) (n : Nat) : Bool :=
  ranges.any fun range => range.1 ≤ n && n ≤ range.2

/-- A blank is a code point with the property `White_Space`. -/
def isBlank (c : Char) : Bool :=
  inRanges blankRanges c.toNat

/-! ## Trimming -/

/-- The characters without the blanks at either end. -/
def trimChars (cs : List Char) : List Char :=
  ((cs.dropWhile isBlank).reverse.dropWhile isBlank).reverse

/-- The text without the blanks at either end. -/
def trim (s : String) : String :=
  String.ofList (trimChars s.toList)

/-! ## ASCII case -/

/-- The text with its ASCII capitals made small; every other character stays. -/
def lower (s : String) : String :=
  String.ofList (s.toList.map Char.toLower)

/-- Do the two texts differ at most in the case of ASCII letters? -/
def sameLetters (s t : String) : Bool :=
  lower s == lower t

end Appraisal.Text
