/-
JSON values, as this library writes them.

An object is a list of members in the order in which they are written. Nothing here forbids a name to
occur twice: the values that the library builds have distinct names, and what is true only of those is
stated with that condition (`Appraisal.Proofs.CanonicalForm`). A number is an integer or a double, because
the two are written differently: `600` and `600.0`.
-/

set_option autoImplicit false

namespace Appraisal

/-- A JSON value. -/
inductive Json where
  | null
  | bool (value : Bool)
  | integer (value : Int)
  | real (value : Float)
  | string (value : String)
  | array (items : List Json)
  | object (members : List (String × Json))

namespace Json

/-- A natural number. -/
def nat (n : Nat) : Json :=
  .integer n

/-- A list of values, each given its own form. -/
def list {α : Type} (form : α → Json) (values : List α) : Json :=
  .array (values.map form)

/-- A list of texts. -/
def strings (values : List String) : Json :=
  list .string values

/-- A value that may be absent, written as `null` then. -/
def orNull {α : Type} (form : α → Json) : Option α → Json
  | none => .null
  | some value => form value

/-- A member that is left out altogether when its value is absent. -/
def memberIfAny {α : Type} (name : String) (form : α → Json) : Option α → List (String × Json)
  | none => []
  | some value => [(name, form value)]

end Json

end Appraisal
