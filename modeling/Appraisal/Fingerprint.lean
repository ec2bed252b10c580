/-
The fingerprint of a deal: eight hexadecimal digits by which an evaluation is found again.

It is a hash of the deal's canonical text, so it depends on the deal and not on how somebody wrote it down.
The hash is the 32-bit Fowler-Noll-Vo function in the variant that combines a byte before it multiplies.
It is short and quick and no protection against anybody who wants two deals to collide.
-/
import Appraisal.Deal.Format
import Appraisal.Json.Canonical
import Appraisal.Json.Printer

set_option autoImplicit false

namespace Appraisal

/-! ## The hash -/

namespace Hash

/-- The state before the first byte. -/
def basis : UInt32 := 0x811c9dc5

/-- The multiplier; it is odd, so that multiplying loses nothing. -/
def prime : UInt32 := 0x01000193

/-- Takes one byte into the state. -/
def step (state : UInt32) (byte : UInt8) : UInt32 :=
  (state ^^^ byte.toUInt32) * prime

/-- The hash of bytes. -/
def ofBytes (bytes : List UInt8) : UInt32 :=
  bytes.foldl step basis

/-- The bytes of a text in UTF-8. -/
def bytes (text : String) : List UInt8 :=
  text.toUTF8.data.toList

/-- A state as eight hexadecimal digits, the highest first. -/
def hex (state : UInt32) : String :=
  String.ofList ([7, 6, 5, 4, 3, 2, 1, 0].map fun place =>
    Nat.digitChar (state.toNat / Nat.pow 16 place % 16))

end Hash

/-! ## Deals -/

namespace Deal

/-- The deal as JSON text that does not depend on the order of members. -/
def canonicalText (deal : Deal) : String :=
  Json.compact (Json.sortKeys (encode deal))

/-- The fingerprint of a deal. -/
def fingerprint (deal : Deal) : String :=
  Hash.hex (Hash.ofBytes (Hash.bytes deal.canonicalText))

end Deal

end Appraisal
