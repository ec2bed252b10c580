/-
Values that say by a word of their own how the rest of them is to be read.

Such a value is an object in which the word stands under a certain key, anywhere among the members, or an
array whose first item is the word. Since the rest cannot be read before the word is known, it is taken in
whole, and read as a copy afterwards. A fault anywhere in the value therefore comes before every misfit in
the rest, while the word itself is read where it stands.
-/
import Appraisal.Json.Decoder

set_option autoImplicit false

namespace Appraisal.Json

/-- Where the tag of a tagged value stands, what the whole is called in complaints, and how deep the
values beside the tag may be nested. -/
structure Tagging where
  key : String
  title : String
  room : Nat

namespace Tagging

variable {τ : Type} [Vocabulary τ]

/-- Takes in a node whole. -/
def takeIn (tagging : Tagging) (node : Node) : Except DecodeError Unit :=
  match node.strictFault? tagging.room with
  | none => .ok ()
  | some fault => .error (.fault fault)

/-- The tag among members, and the other members. -/
def splitMembers (tagging : Tagging) (ending : ObjectEnd) :
    Option τ → List (Quotation × Node) → Except DecodeError (τ × List (Quotation × Node))
  | tag, [] =>
    match ending.strictFault?, tag with
    | some fault, _ => .error (.fault fault)
    | none, some tag => .ok (tag, [])
    | none, none => misfitHere (.missing tagging.key)
  | _, (.error fault, _) :: _ => .error (.fault fault)
  | tag, (.ok key, value) :: rest =>
    if key = tagging.key then
      match tag with
      | some _ => misfitHere (.repeated tagging.key)
      | none => do
        let found ← Decoder.tag .direct value
        splitMembers tagging ending (some found) rest
    else do
      tagging.takeIn value
      let (found, others) ← splitMembers tagging ending tag rest
      return (found, (.ok key, value) :: others)

/-- Takes in the items behind a tag. -/
def takeInItems (tagging : Tagging) (ending : ArrayEnd) : List Node → Except DecodeError Unit
  | [] =>
    match ending.strictFault? with
    | some fault => .error (.fault fault)
    | none => .ok ()
  | item :: rest => do
    tagging.takeIn item
    takeInItems tagging ending rest

/-- The tag of a node, and the rest of it. -/
def split (tagging : Tagging) : Node → Except DecodeError (τ × Node)
  | .object members ending => do
    let (tag, others) ← splitMembers tagging ending none members
    return (tag, .object others .closed)
  | .array [] ending =>
    match ending.strictFault? with
    | some fault => .error (.fault fault)
    | none => misfitHere (.missing tagging.key)
  | .array (first :: rest) ending => do
    let tag ← Decoder.tag .direct first
    takeInItems tagging ending rest
    return (tag, .array rest .closed)
  | node => .error (node.unwanted tagging.title)

end Tagging

/-- A tagged value; the decoder for the rest depends on the tag. -/
def tagged {τ α : Type} [Vocabulary τ] (tagging : Tagging) (rest : τ → Decoder α) : Decoder α :=
  fun _ node => do
    let (tag, others) ← tagging.split node
    rest tag .copy others

end Appraisal.Json
