/-
The two directions of a data format side by side, for the kinds of value that every record uses.

A type that can be written to JSON and read from it is a `Codec`; the writer and the reader of a record
stand next to each other in the module of the record's format, field by field, so that what one of them
calls a field the other one does too.
-/
import Appraisal.Json.Basic
import Appraisal.Json.Decoder

set_option autoImplicit false

namespace Appraisal

open Json

/-- A type with a JSON form. -/
class Codec (α : Type) where
  encode : α → Json
  decode : Decoder α

export Codec (encode decode)

/-- A member of a kind is written as its word. -/
instance {α : Type} [Vocabulary α] : Codec α where
  encode a := .string (Vocabulary.word a)
  decode := Decoder.word

/-- A set of members of a kind is written as the list of their words, in the order of the kind. -/
instance {α : Type} [Vocabulary α] [BEq α] : Codec (Selection α) where
  encode s := Json.list encode s.toList
  decode := Decoder.selection

instance : Codec String := ⟨.string, Decoder.string⟩

instance : Codec Bool := ⟨.bool, Decoder.boolean⟩

instance : Codec Float := ⟨.real, Decoder.float⟩

instance : Codec UInt32 := ⟨fun n => .nat n.toNat, Decoder.count⟩

instance {α : Type} [Codec α] : Codec (List α) := ⟨Json.list encode, Decoder.list decode⟩

instance {α : Type} [Codec α] : Codec (α × α) :=
  ⟨fun (a, b) => .array [encode a, encode b], Decoder.pair decode⟩

/-- An absent value is written as `null`. -/
instance {α : Type} [Codec α] : Codec (Option α) :=
  ⟨Json.orNull encode, Decoder.nullable decode⟩

namespace Json.Record

/-- A field that has to be there, in the form of its type. -/
def get {α : Type} [Codec α] (r : Record) (name : String) : Located α :=
  r.field name .refused decode

/-- A field that may be `null`; an object may also leave it out. -/
def get? {α : Type} [Codec α] (r : Record) (name : String) : Located (Option α) :=
  r.field name (.unnamed none) decode

/-- A field with a value for the case that it is not there. -/
def getD {α : Type} [Codec α] (r : Record) (name : String) (value : α) : Located α :=
  r.field name (.replaced value) decode

end Json.Record

end Appraisal
