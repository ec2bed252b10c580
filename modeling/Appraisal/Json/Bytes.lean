/-
JSON text as bytes.

Bytes are taken for UTF-8, and not all of them have to be. No value, key or mark starts with a byte that belongs
to no character, and a string that holds one cannot be read. A string that is passed over may hold it, though, and
behind the value nobody looks. The same holds of a string with half of a surrogate pair. So what is read in the
place of such a byte is a character with which nothing starts, and half of a pair behind it (`illegible`).
-/
import Appraisal.Json.Decoder

set_option autoImplicit false

namespace Appraisal.Json

/-! ## Bytes of no character -/

/-- Characters that can be read in the place of a byte that belongs to none. No value starts with them. A string
that starts with them cannot be read, and who passes over it finds its end where it is without them. -/
structure StandIn where
  chars : List Char
  parseValue_chars : ∀ supply rest, parseValue (supply + 1) (chars ++ rest) = (.broken .stray, none)
  scanString_chars : ∀ rest, scanString (chars ++ rest) = (.error .unfinishedPair, (scanString rest).2)

/-- What is read in the place of a byte of no character. The blank at its end keeps the half from making a pair
with an escape behind it. -/
def illegible : StandIn where
  chars := ['\ufffd', '\\', 'u', 'd', '8', '0', '0', ' ']
  parseValue_chars supply rest := by
    rw [parseValue]
    rfl
  scanString_chars rest := by
    have hpieces : pieces (['\ufffd', '\\', 'u', 'd', '8', '0', '0', ' '] ++ rest)
        = (.char '\ufffd' :: .unit 0xd800 :: .char ' ' :: (pieces rest).1, (pieces rest).2) := by
      simp [pieces, hexUnit?, hexValue?]
    rw [scanString, scanString, hpieces]
    rfl

/-! ## Characters -/

/-- Some characters, and behind them those that are read where the bytes from a place on stand. -/
def charsFrom (bytes : ByteArray) (place : Nat) (before : Array Char) : List Char :=
  if place < bytes.size then
    match bytes.utf8DecodeChar? place with
    | some c => charsFrom bytes (place + c.utf8Size) (before.push c)
    | none => charsFrom bytes (place + 1) (before ++ illegible.chars)
  else before.toList
termination_by bytes.size - place
decreasing_by
  · have := c.utf8Size_pos
    omega
  · omega

/-- Where the characters of a text stand, they are read. -/
theorem charsFrom_utf8Encode (front : ByteArray) (cs : List Char) (before : Array Char) :
    charsFrom (front ++ cs.utf8Encode) front.size before = before.toList ++ cs := by
  induction cs generalizing front before with
  | nil =>
      rw [charsFrom, List.utf8Encode_nil, ByteArray.append_empty, if_neg (Nat.lt_irrefl _), List.append_nil]
  | cons c cs ih =>
      have hchar : (front ++ (c :: cs).utf8Encode).utf8DecodeChar? front.size = some c := by
        rw [ByteArray.utf8DecodeChar?_eq_utf8DecodeChar?_extract,
          ByteArray.extract_append_eq_right rfl ByteArray.size_append, List.utf8DecodeChar?_utf8Encode_cons]
      have hplace : front.size < (front ++ (c :: cs).utf8Encode).size :=
        ByteArray.lt_size_of_isSome_utf8DecodeChar? (by rw [hchar]; rfl)
      have hsize : (front ++ [c].utf8Encode).size = front.size + c.utf8Size := by
        rw [ByteArray.size_append, List.utf8Encode_singleton, List.size_toByteArray, String.length_utf8EncodeChar]
      rw [charsFrom, if_pos hplace, hchar]
      dsimp only
      rw [← hsize, List.utf8Encode_cons, ← ByteArray.append_assoc, ih, Array.toList_push, List.append_assoc,
        List.singleton_append]

/-! ## Whole texts -/

/-- A whole text in bytes. -/
def Document.ofBytes (bytes : ByteArray) : Document :=
  .ofChars (charsFrom bytes 0 #[])

/-- The bytes of a text are read as the text. -/
theorem Document.ofBytes_toUTF8 (text : String) : Document.ofBytes text.toUTF8 = .read text := by
  have hchars : charsFrom text.toUTF8 0 #[] = text.toList := by
    have hfront := charsFrom_utf8Encode .empty text.toList #[]
    rw [ByteArray.empty_append, String.utf8Encode_toList] at hfront
    exact hfront
  rw [ofBytes, hchars, read]

/-- The value at the start of a text in bytes, whatever follows it. -/
def decodeStart {α : Type} (decode : Decoder α) (bytes : ByteArray) : Except DecodeError α :=
  decode .direct (Document.ofBytes bytes).root

end Appraisal.Json
