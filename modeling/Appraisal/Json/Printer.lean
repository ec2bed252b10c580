/-
JSON values as text.

The compact form has no white space at all. The indented form puts every item and member on a line of its
own, two spaces deeper than its container, with one space behind a colon; an empty array or object stays
`[]` or `{}`. Both write the same tokens, in the same order.

In a string only what JSON demands is escaped: the quotation mark, the backslash and the control
characters below U+0020, the five that have a short form by that and the others by number. A double that
is no finite number has no form in JSON and is written as `null`.
-/
import Appraisal.Json.Basic
import Appraisal.Decimal.Layout

set_option autoImplicit false

namespace Appraisal.Json

/-! ## Scalars -/

/-- One hexadecimal digit, a small letter above nine. -/
def hexDigit (n : Nat) : Char :=
  Nat.digitChar n

/-- A character inside a JSON string. -/
def escapedChar (c : Char) : List Char :=
  if c = '"' then ['\\', '"']
  else if c = '\\' then ['\\', '\\']
  else if c = '\x08' then ['\\', 'b']
  else if c = '\t' then ['\\', 't']
  else if c = '\n' then ['\\', 'n']
  else if c = '\x0c' then ['\\', 'f']
  else if c = '\r' then ['\\', 'r']
  else if c.toNat < 32 then ['\\', 'u', '0', '0', hexDigit (c.toNat / 16), hexDigit (c.toNat % 16)]
  else [c]

/-- A JSON string. -/
def stringText (s : String) : List Char :=
  ['"'] ++ s.toList.flatMap escapedChar ++ ['"']

/-- An integer. -/
def integerText : Int → List Char
  | .ofNat n => Decimal.digits n
  | .negSucc n => '-' :: Decimal.digits (n + 1)

/-- A double, or `null`. -/
def realText (x : Float) : List Char :=
  if Binary64.isFinite x then (Decimal.Style.json.float x).toList else ['n', 'u', 'l', 'l']

/-- The text of a Boolean. -/
def boolText (b : Bool) : List Char :=
  if b then ['t', 'r', 'u', 'e'] else ['f', 'a', 'l', 's', 'e']

/-! ## The compact form -/

mutual

/-- The text of a value without white space. -/
def compactChars : Json → List Char
  | .null => ['n', 'u', 'l', 'l']
  | .bool b => boolText b
  | .integer n => integerText n
  | .real x => realText x
  | .string s => stringText s
  | .array items => '[' :: compactItems items
  | .object members => '\x7b' :: compactMembers members

/-- The items of an array and its closing bracket. -/
def compactItems : List Json → List Char
  | [] => [']']
  | item :: rest => compactChars item ++ compactItemsAfter rest

/-- The further items of an array, each behind a comma, and the closing bracket. -/
def compactItemsAfter : List Json → List Char
  | [] => [']']
  | item :: rest => ',' :: (compactChars item ++ compactItemsAfter rest)

/-- The members of an object and its closing brace. -/
def compactMembers : List (String × Json) → List Char
  | [] => ['\x7d']
  | (name, value) :: rest =>
    stringText name ++ (':' :: (compactChars value ++ compactMembersAfter rest))

/-- The further members of an object, each behind a comma, and the closing brace. -/
def compactMembersAfter : List (String × Json) → List Char
  | [] => ['\x7d']
  | (name, value) :: rest =>
    ',' :: (stringText name ++ (':' :: (compactChars value ++ compactMembersAfter rest)))

end

/-- A value without white space. -/
def compact (value : Json) : String :=
  String.ofList (compactChars value)

/-! ## The indented form -/

/-- A new line, indented by so many steps of two spaces. -/
def newLine (depth : Nat) : List Char :=
  '\n' :: List.replicate (2 * depth) ' '

mutual

/-- The text of a value that stands at the given depth. -/
def indentedChars (depth : Nat) : Json → List Char
  | .array [] => ['[', ']']
  | .array (item :: rest) =>
    '[' :: (newLine (depth + 1) ++ indentedChars (depth + 1) item ++ indentedItems depth rest)
  | .object [] => ['\x7b', '\x7d']
  | .object ((name, value) :: rest) =>
    '\x7b' :: (newLine (depth + 1) ++ stringText name ++ [':', ' ']
      ++ indentedChars (depth + 1) value ++ indentedMembers depth rest)
  | .null => ['n', 'u', 'l', 'l']
  | .bool b => boolText b
  | .integer n => integerText n
  | .real x => realText x
  | .string s => stringText s

/-- The further items of an array at the given depth, and its closing bracket. -/
def indentedItems (depth : Nat) : List Json → List Char
  | [] => newLine depth ++ [']']
  | item :: rest =>
    ',' :: (newLine (depth + 1) ++ indentedChars (depth + 1) item ++ indentedItems depth rest)

/-- The further members of an object at the given depth, and its closing brace. -/
def indentedMembers (depth : Nat) : List (String × Json) → List Char
  | [] => newLine depth ++ ['\x7d']
  | (name, value) :: rest =>
    ',' :: (newLine (depth + 1) ++ stringText name ++ [':', ' ']
      ++ indentedChars (depth + 1) value ++ indentedMembers depth rest)

end

/-- A value with one item or member on a line. -/
def indented (value : Json) : String :=
  String.ofList (indentedChars 0 value)

end Appraisal.Json
