/-
From characters to the tree of `Appraisal.Json.Node`.

The reader never refuses: where the text stops making sense it records what it met and stops. A value
comes back together with the text behind it, or with nothing if the text has to be given up inside it, so
that a broken place ends every container around it as well.

White space between tokens is the space, the tab, the line feed and the carriage return. The recursion
runs on a supply of steps; every step that opens a container or passes a comma uses up a character, so
twice the length of the text is more than enough (`Document.read`).
-/
import Appraisal.Json.Node

set_option autoImplicit false

namespace Appraisal.Json

/-! ## White space and words -/

/-- White space between tokens. -/
def isSpace (c : Char) : Bool :=
  c = ' ' || c = '\t' || c = '\n' || c = '\r'

/-- The text from the next token on. -/
def skipSpace (cs : List Char) : List Char :=
  cs.dropWhile isSpace

/-- The text behind the rest of a word, or what is wrong with it. -/
def afterWord : List Char → List Char → Except Fault (List Char)
  | [], cs => .ok cs
  | _ :: _, [] => .error .endInValue
  | w :: word, c :: cs => if c = w then afterWord word cs else .error .wordExpected

/-! ## Strings -/

/-- A piece of a string: a character, or one sixteen-bit unit written by number. -/
inductive Piece where
  | char (c : Char)
  | unit (n : Nat)

/-- How the pieces of a string end. -/
inductive StringEnd where
  | closed (rest : List Char)
  | cut
  | control
  | badEscape
  | badHex

/-- The value of a hexadecimal digit. -/
def hexValue? (c : Char) : Option Nat :=
  if '0' ≤ c ∧ c ≤ '9' then some (c.toNat - '0'.toNat)
  else if 'a' ≤ c ∧ c ≤ 'f' then some (c.toNat - 'a'.toNat + 10)
  else if 'A' ≤ c ∧ c ≤ 'F' then some (c.toNat - 'A'.toNat + 10)
  else none

/-- The value of four hexadecimal digits. -/
def hexUnit? (a b c d : Char) : Option Nat := do
  let a ← hexValue? a
  let b ← hexValue? b
  let c ← hexValue? c
  let d ← hexValue? d
  return ((a * 16 + b) * 16 + c) * 16 + d

/-- The character that a one-letter escape stands for. -/
def shortEscape? : Char → Option Char
  | '"' => some '"'
  | '\\' => some '\\'
  | '/' => some '/'
  | 'b' => some '\x08'
  | 'f' => some '\x0c'
  | 'n' => some '\n'
  | 'r' => some '\r'
  | 't' => some '\t'
  | _ => none

/-- Does the text hold at least four bytes? Only then four digits are looked for. -/
def hasFourBytes (cs : List Char) : Bool :=
  4 ≤ (cs.take 4).foldl (fun n c => n + c.utf8Size) 0

/-- The pieces of a string up to its closing mark, and how they end. -/
def pieces : List Char → List Piece × StringEnd
  | [] => ([], .cut)
  | '"' :: rest => ([], .closed rest)
  | '\\' :: 'u' :: a :: b :: c :: d :: rest =>
    match hexUnit? a b c d with
    | some n =>
      let (more, ending) := pieces rest
      (.unit n :: more, ending)
    | none => ([], .badHex)
  | '\\' :: 'u' :: rest => ([], if hasFourBytes rest then .badHex else .cut)
  | '\\' :: [] => ([], .cut)
  | '\\' :: c :: rest =>
    match shortEscape? c with
    | some e =>
      let (more, ending) := pieces rest
      (.char e :: more, ending)
    | none => ([], .badEscape)
  | c :: rest =>
    if c.toNat < 32 then ([], .control)
    else
      let (more, ending) := pieces rest
      (.char c :: more, ending)

/-- The closing mark ends the pieces. -/
theorem pieces_mark (rest : List Char) : pieces ('"' :: rest) = ([], .closed rest) := by
  rw [pieces]

/-- The fault of a string that is not closed, for one who only looks for its end. -/
def StringEnd.fault? : StringEnd → Option Fault
  | .closed _ => none
  | .cut => some .endInString
  | .control => some .controlCharacter
  | .badEscape => some .badEscape
  | .badHex => some .badEscape

/-- The fault behind a first half of a surrogate pair when the second half does not come. -/
def StringEnd.faultAfterHalf : StringEnd → Fault
  | .cut => .endInString
  | .badHex => .badEscape
  | .closed _ | .control | .badEscape => .unfinishedPair

/-- The characters of a string: units become characters, two halves of a surrogate pair become one. -/
def spell (ending : StringEnd) : List Piece → Except Fault (List Char)
  | [] =>
    match ending.fault? with
    | none => .ok []
    | some fault => .error fault
  | .char c :: rest => (spell ending rest).map (c :: ·)
  | .unit n :: rest =>
    if 0xd800 ≤ n ∧ n ≤ 0xdbff then
      match rest with
      | .unit m :: rest =>
        if 0xdc00 ≤ m ∧ m ≤ 0xdfff then
          (spell ending rest).map (Char.ofNat (0x10000 + (n - 0xd800) * 0x400 + (m - 0xdc00)) :: ·)
        else .error .loneSurrogate
      | .char _ :: _ => .error .unfinishedPair
      | [] => .error ending.faultAfterHalf
    else if 0xdc00 ≤ n ∧ n ≤ 0xdfff then .error .loneSurrogate
    else (spell ending rest).map (Char.ofNat n :: ·)

/-- A character stands for itself. -/
theorem spell_char (ending : StringEnd) (c : Char) (rest : List Piece) :
    spell ending (.char c :: rest) = (spell ending rest).map (c :: ·) := by
  rw [spell]

/-- A string behind its opening mark: its characters for a reader, and the text behind it or the fault
for one who passes over. -/
def scanString (cs : List Char) : Quotation × Except Fault (List Char) :=
  let (parts, ending) := pieces cs
  ((spell ending parts).map String.ofList,
    match ending, ending.fault? with
    | .closed rest, _ => .ok rest
    | _, some fault => .error fault
    | _, none => .ok [])

/-! ## Numbers -/

/-- The digits before the point: a single zero, or digits that do not start with one. -/
def scanWhole : List Char → Except Fault (List Char × List Char)
  | [] => .error .endInValue
  | c :: rest =>
    if c = '0' then
      if (rest.head?.map Char.isDigit).getD false then .error .badNumber else .ok ([c], rest)
    else if c.isDigit then
      .ok (c :: rest.takeWhile Char.isDigit, rest.dropWhile Char.isDigit)
    else .error .badNumber

/-- Digits where at least one is due. -/
def scanDigits (cs : List Char) : Except Fault (List Char × List Char) :=
  match cs.takeWhile Char.isDigit with
  | [] => .error (if cs.isEmpty then .endInValue else .badNumber)
  | digits => .ok (digits, cs.dropWhile Char.isDigit)

/-- The point and the digits behind it, if there is a point. -/
def scanFraction : List Char → Except Fault (List Char × List Char)
  | '.' :: rest => scanDigits rest
  | cs => .ok ([], cs)

/-- The exponent, if there is one. -/
def scanExponent : List Char → Except Fault (Option (Bool × List Char) × List Char)
  | c :: rest =>
    if c = 'e' ∨ c = 'E' then
      let (negative, rest) :=
        match rest with
        | '+' :: rest => (false, rest)
        | '-' :: rest => (true, rest)
        | rest => (false, rest)
      (scanDigits rest).map fun (digits, rest) => (some (negative, digits), rest)
    else .ok (none, c :: rest)
  | [] => .ok (none, [])

/-- A number and the text behind it. -/
def scanNumber (cs : List Char) : Except Fault (Literal × List Char) := do
  let (negative, cs) :=
    match cs with
    | '-' :: rest => (true, rest)
    | cs => (false, cs)
  let (whole, cs) ← scanWhole cs
  let (fraction, cs) ← scanFraction cs
  let (exponent, cs) ← scanExponent cs
  return (⟨negative, whole, fraction, exponent⟩, cs)

/-! ## Values -/

/-- A node, and the text behind it if the reading goes on. -/
abbrev Parsed := Node × Option (List Char)

/-- The word `null`, `true` or `false` behind its first letter. -/
def parseWord (word : List Char) (node : Node) (wreck : Fault → Wreck) (cs : List Char) : Parsed :=
  match afterWord word cs with
  | .ok rest => (node, some rest)
  | .error fault => (.broken (wreck fault), none)

/-- A number. -/
def parseNumber (cs : List Char) : Parsed :=
  match scanNumber cs with
  | .ok (literal, rest) => (.number literal, some rest)
  | .error fault => (.broken (.number fault), none)

/-- A string behind its opening mark. -/
def parseString (cs : List Char) : Parsed :=
  match scanString cs with
  | (text, .ok rest) => (.string text, some rest)
  | (.error whenRead, .error whenPassedOver) => (.broken (.string whenRead whenPassedOver), none)
  | (.ok _, .error fault) => (.broken (.string fault fault), none)

mutual

/-- The value that starts at the next token. -/
def parseValue : Nat → List Char → Parsed
  | 0, _ => (.broken .stray, none)
  | supply + 1, cs =>
    match skipSpace cs with
    | [] => (.broken .absent, none)
    | 'n' :: rest => parseWord ['u', 'l', 'l'] .null .nullWord rest
    | 't' :: rest => parseWord ['r', 'u', 'e'] (.bool true) .boolWord rest
    | 'f' :: rest => parseWord ['a', 'l', 's', 'e'] (.bool false) .boolWord rest
    | '"' :: rest => parseString rest
    | '[' :: rest =>
      match skipSpace rest with
      | [] => (.array [] .cut, none)
      | ']' :: rest => (.array [] .closed, some rest)
      | rest =>
        let (items, ending, rest) := parseItems supply rest
        (.array items ending, rest)
    | '\x7b' :: rest =>
      match skipSpace rest with
      | [] => (.object [] .cut, none)
      | '\x7d' :: rest => (.object [] .closed, some rest)
      | '"' :: rest =>
        let (members, ending, rest) := parseMembers supply rest
        (.object members ending, rest)
      | _ => (.object [] .notAKey, none)
    | c :: rest =>
      if c = '-' ∨ c.isDigit then parseNumber (c :: rest) else (.broken .stray, none)

/-- The items of an array from the next one on. -/
def parseItems : Nat → List Char → List Node × ArrayEnd × Option (List Char)
  | 0, _ => ([], .noComma, none)
  | supply + 1, cs =>
    match parseValue supply cs with
    | (item, none) => ([item], .closed, none)
    | (item, some rest) =>
      match skipSpace rest with
      | [] => ([item], .cut, none)
      | ']' :: rest => ([item], .closed, some rest)
      | ',' :: rest =>
        match skipSpace rest with
        | [] => ([item], .cutAfterComma, none)
        | ']' :: _ => ([item], .strayComma, none)
        | rest =>
          let (items, ending, rest) := parseItems supply rest
          (item :: items, ending, rest)
      | _ => ([item], .noComma, none)

/-- The members of an object from behind the opening mark of the next key on. -/
def parseMembers : Nat → List Char → List (Quotation × Node) × ObjectEnd × Option (List Char)
  | 0, _ => ([], .noComma, none)
  | supply + 1, cs =>
    match scanString cs with
    | (key, .error fault) => ([(key, .broken (.noColon fault))], .closed, none)
    | (key, .ok rest) =>
      match skipSpace rest with
      | [] => ([(key, .broken (.noColon .endInObject))], .closed, none)
      | ':' :: rest =>
        match parseValue supply rest with
        | (value, none) => ([(key, value)], .closed, none)
        | (value, some rest) =>
          match skipSpace rest with
          | [] => ([(key, value)], .cut, none)
          | '\x7d' :: rest => ([(key, value)], .closed, some rest)
          | ',' :: rest =>
            match skipSpace rest with
            | [] => ([(key, value)], .cutAfterComma, none)
            | '\x7d' :: _ => ([(key, value)], .strayComma, none)
            | '"' :: rest =>
              let (members, ending, rest) := parseMembers supply rest
              ((key, value) :: members, ending, rest)
            | _ => ([(key, value)], .notAKey, none)
          | _ => ([(key, value)], .noComma, none)
      | _ => ([(key, .broken (.noColon .colonExpected))], .closed, none)

end

/-- Without supply nothing is read. -/
theorem parseValue_zero (cs : List Char) : parseValue 0 cs = (.broken .stray, none) := by
  rw [parseValue]

theorem parseItems_zero (cs : List Char) : parseItems 0 cs = ([], .noComma, none) := by
  rw [parseItems]

theorem parseMembers_zero (cs : List Char) : parseMembers 0 cs = ([], .noComma, none) := by
  rw [parseMembers]

/-- A whole text. -/
def Document.ofChars (cs : List Char) : Document :=
  match parseValue (2 * cs.length + 2) cs with
  | (root, none) => ⟨root, false⟩
  | (root, some rest) => ⟨root, !(skipSpace rest).isEmpty⟩

/-- A whole text. -/
def Document.read (text : String) : Document :=
  .ofChars text.toList

end Appraisal.Json
