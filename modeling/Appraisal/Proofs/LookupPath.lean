/-
Every fingerprint can be asked for.

A fingerprint consists of hexadecimal digits. Put behind the path of the evaluations it is a segment of its
own, none of its characters ends the path or starts an escape, and so the site reads exactly the
fingerprint back out of the path (`route_and_segment_fingerprint`).
-/
import Mathlib.Data.List.TakeWhile
import Appraisal.Proofs.TextBytes
import Appraisal.Web.Site

set_option autoImplicit false

namespace Appraisal.Web

/-- The path under which the evaluation with a fingerprint is asked for. -/
def lookupPath (fingerprint : String) : String :=
  "/api/v1/evaluations/" ++ fingerprint

/-! ## The route -/

theorem splitAtSlashes_of_not_mem {cs : List Char} (hcs : '/' ∉ cs) : splitAtSlashes cs = [cs] := by
  induction cs with
  | nil => rfl
  | cons c cs ih =>
      rw [List.mem_cons, not_or] at hcs
      rw [splitAtSlashes, if_neg (Ne.symm hcs.1), ih hcs.2]

theorem toList_lookupPath (segment : String) :
    (lookupPath segment).toList = ['/', 'a', 'p', 'i', '/', 'v', '1', '/', 'e', 'v', 'a', 'l', 'u', 'a',
      't', 'i', 'o', 'n', 's', '/'] ++ segment.toList := by
  unfold lookupPath
  simp

/-- A text that is not empty and that holds no delimiter is the segment of its path. -/
theorem route_lookupPath {segment : String} (hne : segment ≠ "")
    (hplain : ∀ c ∈ segment.toList, c ≠ '/' ∧ c ≠ '?' ∧ c ≠ '#') :
    Route.ofPath? (pathOf (lookupPath segment)) = some (.evaluation segment) := by
  have hall : ∀ c ∈ (lookupPath segment).toList, (c ≠ '?' && c ≠ '#') = true := by
    intro c hc
    rw [toList_lookupPath, List.mem_append] at hc
    rcases hc with hfront | hsegment
    · exact (List.all_eq_true (p := fun c => c ≠ '?' && c ≠ '#')).mp (by decide) c hfront
    · obtain ⟨_, hquery, hfragment⟩ := hplain c hsegment
      simp [hquery, hfragment]
  have hpath : pathOf (lookupPath segment) = lookupPath segment := by
    rw [pathOf, List.takeWhile_eq_self_iff.mpr hall, String.ofList_toList]
  have hsegments : segments (lookupPath segment) = ["", "api", "v1", "evaluations", segment] := by
    have hlast := splitAtSlashes_of_not_mem fun h => (hplain '/' h).1 rfl
    rw [segments, toList_lookupPath]
    simp [splitAtSlashes, hlast]
  have hempty : segment.isEmpty = false := by
    rw [← Bool.not_eq_true, String.isEmpty_iff]
    exact hne
  rw [hpath, Route.ofPath?, hsegments]
  simp [hempty]

/-! ## The segment -/

/-- Bytes without a percent sign stand for themselves. -/
theorem percentDecode_of_not_mem {bytes : List UInt8} (h : 37 ∉ bytes) : percentDecode bytes = bytes := by
  fun_induction percentDecode bytes with
  | case1 => rfl
  | case2 a => rfl
  | case3 a b => rfl
  | case4 b c rest => exact absurd List.mem_cons_self h
  | case5 b c rest => exact absurd List.mem_cons_self h
  | case6 a b c rest hne ih => rw [ih fun hin => h (List.mem_cons_of_mem a hin)]

/-- The bytes of a text read back as the text. -/
theorem fromUTF8?_bytes (text : String) :
    String.fromUTF8? (ByteArray.mk text.toUTF8.data.toList.toArray) = some text := by
  rw [Array.toArray_toList, String.toUTF8_eq_toByteArray, String.fromUTF8?, dif_pos text.isValidUTF8]
  rfl

/-- A text whose bytes hold no percent sign is read as it stands. -/
theorem decodeSegment_of_not_mem {segment : String} (h : 37 ∉ segment.toUTF8.data.toList) :
    decodeSegment segment = some segment := by
  rw [decodeSegment, percentDecode_of_not_mem h, fromUTF8?_bytes]

/-- A hexadecimal digit is no percent sign, and no delimiter. -/
theorem digitChar_plain {d : Nat} (hd : d < 16) :
    37 ∉ String.utf8EncodeChar (Nat.digitChar d)
      ∧ Nat.digitChar d ≠ '/' ∧ Nat.digitChar d ≠ '?' ∧ Nat.digitChar d ≠ '#' := by
  have h : ∀ d : Fin 16, 37 ∉ String.utf8EncodeChar (Nat.digitChar d)
      ∧ Nat.digitChar d ≠ '/' ∧ Nat.digitChar d ≠ '?' ∧ Nat.digitChar d ≠ '#' := by decide
  exact h ⟨d, hd⟩

theorem toList_hex (state : UInt32) :
    (Hash.hex state).toList = [7, 6, 5, 4, 3, 2, 1, 0].map fun place =>
      Nat.digitChar (state.toNat / Nat.pow 16 place % 16) :=
  String.toList_ofList

/-- **The site reads a fingerprint back out of its path.** -/
theorem route_and_segment_fingerprint (deal : Deal) :
    Route.ofPath? (pathOf (lookupPath deal.fingerprint)) = some (.evaluation deal.fingerprint)
      ∧ decodeSegment deal.fingerprint = some deal.fingerprint := by
  have hchars : ∀ c ∈ deal.fingerprint.toList, ∃ d < 16, c = Nat.digitChar d := by
    intro c hc
    rw [Deal.fingerprint, toList_hex, List.mem_map] at hc
    obtain ⟨place, _, rfl⟩ := hc
    exact ⟨_, Nat.mod_lt _ (by decide), rfl⟩
  constructor
  · refine route_lookupPath ?_ fun c hc => ?_
    · intro hempty
      have hlength := congrArg (fun text => text.toList.length) hempty
      rw [Deal.fingerprint, toList_hex] at hlength
      simp at hlength
    · obtain ⟨d, hd, rfl⟩ := hchars c hc
      exact (digitChar_plain hd).2
  · refine decodeSegment_of_not_mem ?_
    rw [Text.toList_toUTF8, List.mem_flatMap]
    rintro ⟨c, hc, hbyte⟩
    obtain ⟨d, hd, rfl⟩ := hchars c hc
    exact (digitChar_plain hd).1 hbyte

end Appraisal.Web
