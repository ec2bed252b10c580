/-
What one byte does to a fingerprint.

The hash is short and its collisions are easy to find, but the smallest change is always noticed. A step
combines a byte with the state and multiplies by an odd number; both can be undone, so that for every byte a
step is a bijection of the states. Two texts that differ in one byte arrive at different states behind that
byte, and no byte behind it brings the states together again.

What is shown of the state are its eight hexadecimal digits, leading zeros included, and so a fingerprint says
as much as the state.
-/
import Mathlib.Algebra.Group.Nat.Defs
import Mathlib.Data.List.Basic
import Mathlib.Logic.Function.Basic
import Appraisal.Proofs.LookupPath
import Appraisal.Proofs.TextBytes
import Appraisal.Samples

set_option autoImplicit false

namespace Appraisal.Hash

/-! ## One step -/

/-- The inverse of the multiplier among the states. -/
def primeInverse : UInt32 := 0x359c449b

/-- Takes a byte out of the state again. -/
def unstep (state : UInt32) (byte : UInt8) : UInt32 :=
  state * primeInverse ^^^ byte.toUInt32

theorem prime_mul_primeInverse : prime * primeInverse = 1 := by decide

/-- Combining with the same word twice changes nothing. -/
theorem xor_xor_self (state word : UInt32) : state ^^^ word ^^^ word = state := by
  rw [UInt32.xor_assoc, UInt32.xor_self, UInt32.xor_zero]

theorem unstep_step (state : UInt32) (byte : UInt8) : unstep (step state byte) byte = state := by
  rw [unstep, step, UInt32.mul_assoc, prime_mul_primeInverse, UInt32.mul_one, xor_xor_self]

theorem step_unstep (state : UInt32) (byte : UInt8) : step (unstep state byte) byte = state := by
  rw [step, unstep, xor_xor_self, UInt32.mul_assoc, UInt32.mul_comm primeInverse,
    prime_mul_primeInverse, UInt32.mul_one]

/-- **A step loses nothing of the state**, and every state is reached. -/
theorem step_bijective (byte : UInt8) : Function.Bijective fun state => step state byte :=
  Function.bijective_iff_has_inverse.mpr
    ⟨fun state => unstep state byte, fun state => unstep_step state byte,
      fun state => step_unstep state byte⟩

/-- From one state two bytes lead to two states. -/
theorem step_ne (state : UInt32) {a b : UInt8} (hne : a ≠ b) : step state a ≠ step state b := by
  intro h
  -- undoing the multiplication and the state leaves the byte
  have hbyte : ∀ byte : UInt8, step state byte * primeInverse ^^^ state = byte.toUInt32 := by
    intro byte
    rw [step, UInt32.mul_assoc, prime_mul_primeInverse, UInt32.mul_one, UInt32.xor_comm state,
      xor_xor_self]
  have hword : a.toUInt32 = b.toUInt32 := by rw [← hbyte a, ← hbyte b, h]
  exact hne (UInt8.toUInt32_inj.mp hword)

/-! ## A whole text -/

/-- Taking further bytes in keeps different states different. -/
theorem foldl_step_injective (behind : List UInt8) :
    Function.Injective fun state => behind.foldl step state := by
  induction behind with
  | nil => exact fun _ _ h => h
  | cons byte rest ih => exact ih.comp (step_bijective byte).injective

/-- **Changing one byte changes the hash**, whatever stands in front of the byte and behind it. -/
theorem ofBytes_ne_of_ne (before behind : List UInt8) {a b : UInt8} (hne : a ≠ b) :
    ofBytes (before ++ [a] ++ behind) ≠ ofBytes (before ++ [b] ++ behind) := by
  simp only [ofBytes, List.foldl_append, List.foldl_cons, List.foldl_nil]
  exact fun h => step_ne _ hne (foldl_step_injective behind h)

/-- The number of places at which two lists of bytes differ, as far as both of them go. -/
def differences (xs ys : List UInt8) : Nat :=
  (xs.zip ys).countP fun (x, y) => x ≠ y

/-- Lists of the same length without a difference are the same. -/
theorem eq_of_differences_eq_zero {xs ys : List UInt8} (hlength : xs.length = ys.length)
    (h : differences xs ys = 0) : xs = ys := by
  induction xs generalizing ys with
  | nil => exact (List.length_eq_zero_iff.mp hlength.symm).symm
  | cons x xs ih =>
      cases ys with
      | nil => cases hlength
      | cons y ys =>
          rw [differences, List.zip_cons_cons, List.countP_cons] at h
          have hhead : x = y := by
            by_contra hne
            simp [hne] at h
          rw [hhead, ih (Nat.succ.inj hlength) (by rw [differences]; omega)]

/-- Lists of the same length with one difference are the same before and behind one place. -/
theorem exists_change_of_differences_eq_one {xs ys : List UInt8} (hlength : xs.length = ys.length)
    (h : differences xs ys = 1) :
    ∃ before a b behind, a ≠ b ∧ xs = before ++ [a] ++ behind ∧ ys = before ++ [b] ++ behind := by
  induction xs generalizing ys with
  | nil => cases h
  | cons x xs ih =>
      cases ys with
      | nil => cases hlength
      | cons y ys =>
          have hrest : xs.length = ys.length := Nat.succ.inj hlength
          rw [differences, List.zip_cons_cons, List.countP_cons] at h
          by_cases hhead : x = y
          · -- the difference is further on
            have hone : differences xs ys = 1 := by
              rw [differences]
              simpa [hhead] using h
            obtain ⟨before, a, b, behind, hne, rfl, rfl⟩ := ih hrest hone
            exact ⟨x :: before, a, b, behind, hne, by simp, by simp [hhead]⟩
          · have hzero : differences xs ys = 0 := by
              rw [differences]
              simpa [hhead] using h
            obtain rfl := eq_of_differences_eq_zero hrest hzero
            exact ⟨[], x, y, xs, hhead, by simp, by simp⟩

/-! ## Digits -/

/-- The digits below sixteen are different from each other. -/
theorem digitChar_inj {d e : Nat} (hd : d < 16) (he : e < 16) (h : Nat.digitChar d = Nat.digitChar e) :
    d = e := by
  have hall : ∀ d e : Fin 16, Nat.digitChar d = Nat.digitChar e → d = e := by decide
  exact Fin.mk.inj (hall ⟨d, hd⟩ ⟨e, he⟩ h)

/-- Numbers with the same last digits leave the same rest. -/
theorem mod_pow_eq_of_digits {n m count : Nat}
    (h : ∀ place < count, n / 16 ^ place % 16 = m / 16 ^ place % 16) : n % 16 ^ count = m % 16 ^ count := by
  induction count with
  | zero => rw [Nat.pow_zero, Nat.mod_one, Nat.mod_one]
  | succ count ih =>
      rw [Nat.mod_pow_succ, Nat.mod_pow_succ, h count (Nat.lt_succ_self _),
        ih fun place hplace => h place (Nat.lt_succ_of_lt hplace)]

/-- **The eight digits say which state it is.** -/
theorem hex_injective : Function.Injective hex := by
  intro state state' h
  have hdigits : ∀ place < 8, state.toNat / 16 ^ place % 16 = state'.toNat / 16 ^ place % 16 := by
    have hchars := congrArg String.toList h
    rw [Web.toList_hex, Web.toList_hex, List.map_inj_left] at hchars
    intro place hplace
    have hlisted : ∀ place < 8, place ∈ [7, 6, 5, 4, 3, 2, 1, 0] := by decide
    exact digitChar_inj (Nat.mod_lt _ (by decide)) (Nat.mod_lt _ (by decide))
      (hchars place (hlisted place hplace))
  -- a state has no more than eight digits
  have hrest := mod_pow_eq_of_digits hdigits
  have hbound : ∀ word : UInt32, word.toNat < 16 ^ 8 := fun word => word.toNat_lt
  rw [Nat.mod_eq_of_lt (hbound state), Nat.mod_eq_of_lt (hbound state')] at hrest
  exact UInt32.toNat_inj.mp hrest

end Appraisal.Hash

namespace Appraisal.Deal

open Hash

/-- The canonical text of a deal in bytes. -/
theorem bytes_canonicalText (deal : Deal) :
    bytes deal.canonicalText
      = (Json.compactChars (Json.sortKeys (encode deal))).flatMap String.utf8EncodeChar := by
  rw [bytes, Text.toList_toUTF8, canonicalText, Json.compact, String.toList_ofList]

/-- **A fingerprint tells every change of one byte.** A step of the hash is a bijection of the states, and two
lists of bytes that differ in one byte have different hashes. So deals whose canonical texts are equally long
and differ in one byte have different fingerprints. A fingerprint always consists of eight small hexadecimal
digits, and two deals share it exactly if the hashes of their canonical texts are equal. -/
theorem fingerprint_tells_one_byte :
    (∀ byte : UInt8, Function.Bijective fun state => step state byte)
      ∧ (∀ (before behind : List UInt8) (a b : UInt8), a ≠ b →
          ofBytes (before ++ [a] ++ behind) ≠ ofBytes (before ++ [b] ++ behind))
      ∧ (∀ deal other : Deal,
          (bytes deal.canonicalText).length = (bytes other.canonicalText).length →
          differences (bytes deal.canonicalText) (bytes other.canonicalText) = 1 →
          deal.fingerprint ≠ other.fingerprint)
      ∧ (∀ deal : Deal, deal.fingerprint.length = 8
          ∧ deal.fingerprint.toList ⊆ "0123456789abcdef".toList)
      ∧ (∀ deal other : Deal, deal.fingerprint = other.fingerprint
          ↔ ofBytes (bytes deal.canonicalText) = ofBytes (bytes other.canonicalText)) := by
  have hiff : ∀ deal other : Deal, deal.fingerprint = other.fingerprint
      ↔ ofBytes (bytes deal.canonicalText) = ofBytes (bytes other.canonicalText) :=
    fun _ _ => hex_injective.eq_iff
  refine ⟨step_bijective, fun before behind _ _ => ofBytes_ne_of_ne before behind, ?_, ?_, hiff⟩
  · intro deal other hlength hone
    obtain ⟨before, a, b, behind, hne, hdeal, hother⟩ :=
      exists_change_of_differences_eq_one hlength hone
    rw [Ne, hiff, hdeal, hother]
    exact ofBytes_ne_of_ne before behind hne
  · intro deal
    refine ⟨?_, ?_⟩
    · rw [fingerprint, ← String.length_toList, Web.toList_hex, List.length_map]
      rfl
    · intro c hc
      rw [fingerprint, Web.toList_hex, List.mem_map] at hc
      obtain ⟨place, _, rfl⟩ := hc
      have hdigit : ∀ d : Fin 16, Nat.digitChar d ∈ "0123456789abcdef".toList := by decide
      exact hdigit ⟨_, Nat.mod_lt _ (by decide)⟩

/-- The refrigerator of the next model number has a canonical text of the same length with one other digit in
it, and so it has another fingerprint. -/
theorem nextModel_told_apart :
    let deal := Sample.dentedRefrigerator.deal
    let other := { deal with appliance := { deal.appliance with model := "FL-2251" } }
    ((48 : UInt8) ≠ 49 ∧ ofBytes ([50, 53] ++ [48] ++ [34]) ≠ ofBytes ([50, 53] ++ [49] ++ [34]))
      ∧ (bytes deal.canonicalText).length = (bytes other.canonicalText).length
      ∧ differences (bytes deal.canonicalText) (bytes other.canonicalText) = 1
      ∧ deal.fingerprint ≠ other.fingerprint := by
  intro deal other
  have hdigit : (48 : UInt8) ≠ 49 := by decide
  have hone : (bytes deal.canonicalText).length = (bytes other.canonicalText).length
      ∧ differences (bytes deal.canonicalText) (bytes other.canonicalText) = 1 := by
    rw [bytes_canonicalText, bytes_canonicalText]
    decide +kernel
  obtain ⟨_, hbytes, hdeals, _⟩ := fingerprint_tells_one_byte
  exact ⟨⟨hdigit, hbytes _ _ _ _ hdigit⟩, hone.1, hone.2, hdeals deal other hone.1 hone.2⟩

end Appraisal.Deal
