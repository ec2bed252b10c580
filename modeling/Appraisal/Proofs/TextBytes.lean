/-
The bytes of a text, and their order.

In UTF-8 the bytes of a text are those of its characters, one character behind the other. A character is spelled
by the digits of its code point to the base 64, behind a leading byte that also says how many bytes there are:
the longer the spelling, the greater its leading byte. Of two characters the smaller one therefore has the smaller
bytes, whatever follows it (`utf8EncodeChar_append_lt`), and texts are ordered by their code points exactly as
they are ordered by their bytes (`Hash.bytes_lt_bytes_iff`).
-/
import Mathlib.Data.String.Basic
import Appraisal.Fingerprint

set_option autoImplicit false

namespace Appraisal

namespace Text

/-- The bytes of a text are the bytes of its characters. -/
theorem toList_toUTF8 (text : String) :
    text.toUTF8.data.toList = text.toList.flatMap String.utf8EncodeChar := by
  rw [String.toUTF8_eq_toByteArray, ← String.utf8Encode_toList, List.utf8Encode,
    List.toList_data_toByteArray]

/-! ## Characters -/

theorem ofNat_lt_ofNat {m n : Nat} (h : m < n) (hn : n < 256) : UInt8.ofNat m < UInt8.ofNat n := by
  rw [UInt8.lt_iff_toNat_lt, UInt8.toNat_ofNat', UInt8.toNat_ofNat', Nat.mod_eq_of_lt (Nat.lt_trans h hn),
    Nat.mod_eq_of_lt hn]
  exact h

/-- The first byte decides. -/
theorem ofNat_cons_lt {m n : Nat} (h : m < n) (hn : n < 256) (xs ys : List UInt8) :
    UInt8.ofNat m :: xs < UInt8.ofNat n :: ys :=
  List.cons_lt_cons_iff.mpr (.inl (ofNat_lt_ofNat h hn))

/-- Of two numbers below the bound the smaller one has the smaller spelling, whatever follows it. -/
def KeepsOrder (bound : Nat) (spelling : Nat → List UInt8) : Prop :=
  ∀ m n, m < n → n < bound → ∀ xs ys, spelling m ++ xs < spelling n ++ ys

namespace KeepsOrder

variable {bound last : Nat} {spelling short long : Nat → List UInt8}

/-- A spelling of one byte. -/
theorem ofByte {byte : Nat → Nat} (h : ∀ m n, m < n → n < bound → byte m < byte n ∧ byte n < 256) :
    KeepsOrder bound fun n => [UInt8.ofNat (byte n)] :=
  fun m n hlt hn xs ys => ofNat_cons_lt (h m n hlt hn).1 (h m n hlt hn).2 xs ys

/-- One more digit behind a spelling. Numbers that agree in the digits before it differ in this one. -/
theorem digit (h : KeepsOrder bound spelling) :
    KeepsOrder (64 * bound) fun n => spelling (n / 64) ++ [UInt8.ofNat (n % 64 + 128)] := by
  intro m n hlt hn xs ys
  rw [List.append_assoc, List.append_assoc]
  rcases Nat.lt_or_ge (m / 64) (n / 64) with hfront | hfront
  · exact h _ _ hfront (by omega) _ _
  · -- the digits before this one agree, so that this one is smaller
    have hsame : m / 64 = n / 64 := by omega
    rw [hsame]
    exact List.append_left_lt (ofNat_cons_lt (by omega) (by omega) xs ys)

/-- Numbers up to the last one are spelled shorter than those behind it. -/
theorem longer (hshort : KeepsOrder (last + 1) short) (hlong : KeepsOrder bound long)
    (hlead : ∀ m n, m ≤ last → last < n → n < bound → ∀ xs ys, short m ++ xs < long n ++ ys) :
    KeepsOrder bound fun n => if n ≤ last then short n else long n := by
  intro m n hlt hn xs ys
  dsimp only
  by_cases hm : m ≤ last
  · by_cases hn' : n ≤ last
    · rw [if_pos hm, if_pos hn']
      exact hshort m n hlt (by omega) xs ys
    · rw [if_pos hm, if_neg hn']
      exact hlead m n hm (by omega) hn xs ys
  · rw [if_neg hm, if_neg (by omega)]
    exact hlong m n hlt hn xs ys

end KeepsOrder

/-- **The smaller character has the smaller bytes**, whatever follows it. A spelling of more bytes has a greater
leading byte, and spellings of the same number of bytes are compared digit by digit. -/
theorem utf8EncodeChar_append_lt {c d : Char} (h : c < d) (xs ys : List UInt8) :
    String.utf8EncodeChar c ++ xs < String.utf8EncodeChar d ++ ys := by
  have hone : KeepsOrder 0x80 fun n => [UInt8.ofNat n] := .ofByte (by omega)
  have htwo : KeepsOrder 0x20 fun n => [UInt8.ofNat (n % 0x20 + 0xc0)] := .ofByte (by omega)
  have hthree : KeepsOrder 0x10 fun n => [UInt8.ofNat (n % 0x10 + 0xe0)] := .ofByte (by omega)
  have hfour : KeepsOrder 0x08 fun n => [UInt8.ofNat (n % 0x08 + 0xf0)] := .ofByte (by omega)
  replace htwo := htwo.digit
  replace hthree := hthree.digit.digit
  replace hfour := hfour.digit.digit.digit
  -- in the encoding each digit is taken off by one division
  simp only [Nat.div_div_eq_div_mul] at hthree hfour
  -- each spelling against the longer ones, the longest first
  have hthreeOrFour := hthree.longer hfour fun m n hm hn hbound xs ys =>
    ofNat_cons_lt (by omega) (by omega) _ _
  have htwoOrMore := htwo.longer hthreeOrFour fun m n hm hn hbound xs ys => by
    split_ifs <;> exact ofNat_cons_lt (by omega) (by omega) _ _
  have hall := hone.longer htwoOrMore fun m n hm hn hbound xs ys => by
    split_ifs <;> exact ofNat_cons_lt (by omega) (by omega) _ _
  -- four bytes have room for more than there are code points
  have hd : d.val.toNat < 0x200000 := by
    have hvalid := d.valid
    simp only [UInt32.isValidChar, Nat.isValidChar] at hvalid
    omega
  exact hall _ _ h hd xs ys

/-! ## Texts -/

theorem flatMap_utf8EncodeChar_lt {cs ds : List Char} (h : cs < ds) :
    cs.flatMap String.utf8EncodeChar < ds.flatMap String.utf8EncodeChar := by
  induction cs generalizing ds with
  | nil =>
      cases ds with
      | nil => exact absurd h (List.not_lt_nil _)
      | cons d ds =>
          -- the text that ends first is smaller, because every character has a byte
          obtain ⟨byte, bytes, hbytes⟩ := List.exists_cons_of_ne_nil (String.utf8EncodeChar_ne_nil (c := d))
          rw [List.flatMap_cons, hbytes]
          exact List.nil_lt_cons _ _
  | cons c cs ih =>
      cases ds with
      | nil => exact absurd h (List.not_lt_nil _)
      | cons d ds =>
          rw [List.flatMap_cons, List.flatMap_cons]
          rcases List.cons_lt_cons_iff.mp h with hfirst | ⟨rfl, hrest⟩
          · exact utf8EncodeChar_append_lt hfirst _ _
          · exact List.append_left_lt (ih hrest)

end Text

/-- **The order of texts is the order of their bytes.** -/
theorem Hash.bytes_lt_bytes_iff {text other : String} : bytes text < bytes other ↔ text < other := by
  have hmono : ∀ {s t : String}, s < t → bytes s < bytes t := by
    intro s t h
    rw [bytes, bytes, Text.toList_toUTF8, Text.toList_toUTF8]
    exact Text.flatMap_utf8EncodeChar_lt (String.lt_iff_toList_lt.mp h)
  refine ⟨fun h => ?_, hmono⟩
  -- two texts can always be compared, and bytes that are smaller are not also greater
  rcases lt_trichotomy text other with hlt | rfl | hgt
  · exact hlt
  · exact absurd h (List.lt_irrefl _)
  · exact absurd h (List.lt_asymm (hmono hgt))

end Appraisal
