/-
The canonical form of a JSON value: the same value with the members of every object sorted by name.

Names are compared character by character by code point, which for UTF-8 is the order of the bytes. Two
values that differ only in the order of members, at any depth, have the same canonical form, as long as no
object has two members of one name; it is what the fingerprint of a deal is taken of, so that the fingerprint
depends on the deal and not on the order in which somebody happened to write it down.
-/
import Appraisal.Json.Basic

set_option autoImplicit false

namespace Appraisal.Json

/-- Puts a member in front of the first one that has no smaller name. -/
def insertMember (member : String × Json) : List (String × Json) → List (String × Json)
  | [] => [member]
  | other :: rest =>
    if other.1 < member.1 then other :: insertMember member rest else member :: other :: rest

mutual

/-- The value with the members of every object in increasing order of their names. -/
def sortKeys : Json → Json
  | .array items => .array (sortItems items)
  | .object members => .object (sortMembers members)
  | .null => .null
  | .bool b => .bool b
  | .integer n => .integer n
  | .real x => .real x
  | .string s => .string s

/-- Every item in canonical form; their order stays. -/
def sortItems : List Json → List Json
  | [] => []
  | item :: rest => sortKeys item :: sortItems rest

/-- The members with canonical values, sorted by name; of equal names the first stays in front. -/
def sortMembers : List (String × Json) → List (String × Json)
  | [] => []
  | (name, value) :: rest => insertMember (name, sortKeys value) (sortMembers rest)

end

end Appraisal.Json
