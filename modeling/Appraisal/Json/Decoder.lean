/-
Reading a value of a known shape out of a JSON tree.

A decoder is asked for one shape. It walks the node in the order of the text and answers with the value or
with the first thing wrong: a fault of the text itself, or a misfit between the text and the shape. A
misfit says where it is, as the path of keys and positions from the root.

A record can be written as an object with named members or as an array with its fields in order. Its
fields are decoded independently of each other and every failure carries its position among the members,
so that the combined answer is the failure that comes first in the text, whatever the order in which the
fields were asked for (`Located`).

A node is read either directly or from a copy that was taken in whole before its shape was known. The copy
has no faults left, and it is a little more generous in what it takes for a word (`Pass`).
-/
import Appraisal.Json.Reader
import Appraisal.Decimal.Layout
import Appraisal.Text.Quoted
import Appraisal.Vocabulary

set_option autoImplicit false

namespace Appraisal.Json

/-! ## Misfits -/

/-- A step from a value to one of its parts. -/
inductive Step where
  | key (name : String)
  | index (position : Nat)
  deriving DecidableEq

/-- What was found instead of what was wanted. -/
inductive Found where
  | null
  | bool (value : Bool)
  | integer (value : Int)
  | real (value : Float)
  | string (text : String)
  | list
  | object

/-- A value of another shape than the one that was wanted. -/
inductive Misfit where
  | wrongType (found : Found) (wanted : String)
  | wrongValue (found : Found) (wanted : String)
  | unknownWord (word : String) (known : List String)
  | missing (field : String)
  | repeated (field : String)
  | wrongLength (length : Nat) (wanted : String)
  | tierOutOfRange (number : Nat)

/-- Why a value could not be read. -/
inductive DecodeError where
  | fault (fault : Fault)
  | misfit (path : List Step) (misfit : Misfit)

/-! ## Wording -/

/-- A text set off from the sentence around it. -/
def ticked (text : String) : String :=
  "`" ++ text ++ "`"

/-- A found value in words. -/
def Found.text : Found → String
  | .null => "null"
  | .bool b => "boolean " ++ ticked (if b then "true" else "false")
  | .integer n => "integer " ++ ticked (toString n)
  | .real x => "floating point " ++ ticked (Decimal.Style.json.float x)
  | .string s => "string " ++ Text.quoted s
  | .list => "sequence"
  | .object => "map"

/-- The words of which one was wanted. -/
def oneOf : List String → String
  | [] => "nothing"
  | [a] => ticked a
  | [a, b] => ticked a ++ " or " ++ ticked b
  | words => "one of " ++ ", ".intercalate (words.map ticked)

/-- A misfit in words. -/
def Misfit.message : Misfit → String
  | .wrongType found wanted => "invalid type: " ++ found.text ++ ", expected " ++ wanted
  | .wrongValue found wanted => "invalid value: " ++ found.text ++ ", expected " ++ wanted
  | .unknownWord word known => "unknown variant " ++ ticked word ++ ", expected " ++ oneOf known
  | .missing field => "missing field " ++ ticked field
  | .repeated field => "duplicate field " ++ ticked field
  | .wrongLength length wanted => "invalid length " ++ toString length ++ ", expected " ++ wanted
  | .tierOutOfRange number => "damage tier must be 1, 2, or 3 (got " ++ toString number ++ ")"

/-- Why a value could not be read, in words and without the path. -/
def DecodeError.message : DecodeError → String
  | .fault f => f.message
  | .misfit _ m => m.message

/-- The path with dots between its keys and positions in brackets. -/
def pathText : List Step → String
  | [] => ""
  | .key name :: rest => name ++ pathBehind rest
  | .index position :: rest => "[" ++ toString position ++ "]" ++ pathBehind rest
where
  /-- The path behind its first step. -/
  pathBehind : List Step → String
    | [] => ""
    | .key name :: rest => "." ++ name ++ pathBehind rest
    | .index position :: rest => "[" ++ toString position ++ "]" ++ pathBehind rest

/-- The error of a part as an error of the whole. -/
def DecodeError.under (step : Step) : DecodeError → DecodeError
  | .fault f => .fault f
  | .misfit path m => .misfit (step :: path) m

/-! ## Decoders -/

/-- Is the node read where it stands in the text, or from a copy that was taken in whole? -/
inductive Pass where
  | direct
  | copy
  deriving DecidableEq

/-- A decoder for values of a type. -/
abbrev Decoder (α : Type) := Pass → Node → Except DecodeError α

/-- A misfit at the node itself. -/
def misfitHere {α : Type} (misfit : Misfit) : Except DecodeError α :=
  .error (.misfit [] misfit)

/-- The number as something found. -/
def Numeral.found : Numeral → Found
  | .natural n => .integer n
  | .negative n => .integer n
  | .real x => .real x

/-- The complaint that a node is not what was wanted. A container is known by its first character; a
scalar is read first, and a fault in it comes before the complaint. -/
def Node.unwanted (wanted : String) : Node → DecodeError
  | .null => .misfit [] (.wrongType .null wanted)
  | .bool b => .misfit [] (.wrongType (.bool b) wanted)
  | .number literal =>
    match literal.numeral with
    | none => .fault .numberTooLarge
    | some n => .misfit [] (.wrongType (Numeral.found n) wanted)
  | .string (.ok s) => .misfit [] (.wrongType (.string s) wanted)
  | .string (.error fault) => .fault fault
  | .array _ _ => .misfit [] (.wrongType .list wanted)
  | .object _ _ => .misfit [] (.wrongType .object wanted)
  | .broken wreck => .fault wreck.strictFault

namespace Decoder

/-! ## Scalars -/

/-- A text. -/
def string : Decoder String
  | _, .string (.ok s) => .ok s
  | _, node => .error (node.unwanted "a string")

/-- A Boolean. -/
def boolean : Decoder Bool
  | _, .bool b => .ok b
  | _, node => .error (node.unwanted "a boolean")

/-- A double; an integer will do. -/
def float : Decoder Float
  | _, .number literal =>
    match literal.numeral with
    | none => .error (.fault .numberTooLarge)
    | some n => .ok n.toFloat
  | _, node => .error (node.unwanted "f64")

/-- A natural number below a bound. -/
def natBelow (bound : Nat) (wanted : String) : Decoder Nat
  | _, .number literal =>
    match literal.numeral with
    | none => .error (.fault .numberTooLarge)
    | some (.natural n) =>
      if n < bound then .ok n else misfitHere (.wrongValue (.integer n) wanted)
    | some (.negative n) => misfitHere (.wrongValue (.integer n) wanted)
    | some (.real x) => misfitHere (.wrongType (.real x) wanted)
  | _, node => .error (node.unwanted wanted)

/-- A count of thirty-two bits. -/
def count : Decoder UInt32 := fun pass node =>
  (natBelow UInt32.size "u32" pass node).map UInt32.ofNat

/-- A value that may be `null`. -/
def nullable {α : Type} (decode : Decoder α) : Decoder (Option α)
  | _, .null => .ok none
  | _, .broken (.nullWord fault) => .error (.fault fault)
  | pass, node => (decode pass node).map some

/-! ## Words -/

section Words

variable {α : Type} [Vocabulary α]

/-- The member of a kind with the given word. -/
def member (word : String) : Except DecodeError α :=
  match Vocabulary.ofWord? word with
  | some a => .ok a
  | none => misfitHere (.unknownWord word (Vocabulary.words α))

/-- A word that nothing else will do for. -/
def tag : Decoder α
  | _, .string (.ok s) => member s
  | _, node => .error (node.unwanted "variant identifier")

/-- The value behind a word that was written as the only key of an object: nothing. -/
def nothing : Decoder Unit
  | _, .null => .ok ()
  | .copy, .object [] _ => .ok ()
  | _, node => .error (node.unwanted "unit")

/-- A word written as the only key of an object. -/
def keyedWord (pass : Pass) (key : String) (value : Node) : Except DecodeError α := do
  let a ← member key
  (nothing pass value).mapError (·.under (.key key))
  return a

/-- A word: a string, or an object with the word as its only key and `null` as its value. -/
def word : Decoder α
  | _, .string (.ok s) => member s
  | _, .string (.error fault) => .error (.fault fault)
  | .direct, .object [] ending => .error (.fault (ending.strictFault?.getD .valueExpected))
  | .direct, .object ((.error fault, _) :: _) _ => .error (.fault fault)
  | .direct, .object ((.ok key, value) :: rest) ending => do
    let a ← keyedWord .direct key value
    match rest, ending with
    | [], .closed => return a
    | [], .cut => throw (.fault .endInObject)
    | _, _ => throw (.fault .valueExpected)
  | .copy, .object [(.ok key, value)] _ => keyedWord .copy key value
  | .copy, .object _ _ => misfitHere (.wrongValue .object "map with a single key")
  | .copy, node => .error (node.unwanted "string or map")
  | .direct, .broken .absent => .error (.fault .endInValue)
  | .direct, .broken (.string whenRead _) => .error (.fault whenRead)
  | .direct, .broken (.noColon fault) => .error (.fault fault)
  | .direct, _ => .error (.fault .valueExpected)

end Words

/-! ## Arrays -/

/-- The items of an array, each with the given decoder. -/
def decodeItems {α : Type} (decode : Decoder α) (pass : Pass) :
    Nat → List Node → Except DecodeError (List α)
  | _, [] => .ok []
  | position, item :: rest => do
    let a ← (decode pass item).mapError (·.under (.index position))
    let as ← decodeItems decode pass (position + 1) rest
    return a :: as

/-- A list. -/
def list {α : Type} (decode : Decoder α) : Decoder (List α)
  | pass, .array items ending => do
    let as ← decodeItems decode pass 0 items
    match ending.strictFault? with
    | none => return as
    | some fault => throw (.fault fault)
  | _, node => .error (node.unwanted "a sequence")

/-- A set of members of a kind, written as a list in any order and with any repetitions. -/
def selection {α : Type} [Vocabulary α] [BEq α] : Decoder (Selection α) := fun pass node =>
  (list word pass node).map Selection.ofList

/-- The end of an array from which nothing more is wanted. -/
def endOfArray (pass : Pass) (wanted : Nat) (unread : List Node) (ending : ArrayEnd) :
    Option DecodeError :=
  match pass, unread, ending with
  | _, [], .closed => none
  | .copy, _, _ =>
    some (.misfit [] (.wrongLength (wanted + unread.length)
      (if wanted = 1 then "1 element in sequence" else toString wanted ++ " elements in sequence")))
  | .direct, [], .cut => some (.fault .endInList)
  | .direct, [], .strayComma => some (.fault .trailingComma)
  | .direct, _, _ => some (.fault .trailingCharacters)

/-- The complaint about an array that ends before everything wanted was there. -/
def arrayTooShort (items : List Node) (ending : ArrayEnd) (wanted : String) : DecodeError :=
  match ending.strictFault? with
  | some fault => .fault fault
  | none => .misfit [] (.wrongLength items.length wanted)

/-- Exactly two values. -/
def pair {α : Type} (decode : Decoder α) : Decoder (α × α)
  | pass, .array items ending => do
    let as ← decodeItems decode pass 0 (items.take 2)
    match as, endOfArray pass 2 (items.drop 2) ending with
    | [a, b], none => return (a, b)
    | [_, _], some error => throw error
    | _, _ => throw (arrayTooShort items ending "an array of length 2")
  | _, node => .error (node.unwanted "an array of length 2")

end Decoder

/-! ## Records -/

/-- A value, or an error with its place among the parts of a record. -/
def Located (α : Type) := Except (Nat × DecodeError) α

namespace Located

/-- A value that needs no part of the record. -/
def of {α : Type} (a : α) : Located α :=
  Except.ok a

/-- An error at a place. -/
def failure {α : Type} (place : Nat) (error : DecodeError) : Located α :=
  Except.error (place, error)

/-- Two independent parts of a record. If both fail, the failure that stands first in the text counts;
of two at one place, the left one. -/
def both {α β : Type} (f : Located (α → β)) (x : Located α) : Located β :=
  match f, x with
  | .ok f, .ok x => .ok (f x)
  | .error e, .ok _ => .error e
  | .ok _, .error e => .error e
  | .error e, .error e' => if e'.1 < e.1 then .error e' else .error e

/-- The value or the error, without its place. -/
def toExcept {α : Type} (x : Located α) : Except DecodeError α :=
  match x with
  | .ok a => .ok a
  | .error e => .error e.2

instance : Functor Located where
  map f x := both (of f) x

instance : Seq Located where
  seq f x := both f (x ())

end Located

/-- What becomes of a field that is not there. -/
inductive Absent (α : Type) where
  /-- The record cannot be read. -/
  | refused
  /-- An object may leave it out, an array may not. -/
  | unnamed (value : α)
  /-- An object may leave it out, and an array may end before it. -/
  | replaced (value : α)

/-- The parts of a record, by name or by position. -/
inductive Parts where
  | named (members : List (Quotation × Node)) (ending : ObjectEnd)
  | listed (items : List Node) (ending : ArrayEnd)

/-- A record that is being read: its title for complaints, and the names of its fields in order. -/
structure Record where
  pass : Pass
  title : String
  names : List String
  parts : Parts

namespace Record

/-- The first member with the given name, and its place. -/
def find? (name : String) : Nat → List (Quotation × Node) → Option (Nat × Node)
  | _, [] => none
  | place, (.ok key, value) :: rest => if key = name then some (place, value) else find? name (place + 1) rest
  | place, (.error _, _) :: rest => find? name (place + 1) rest

/-- The number of fields in words. -/
def sizeText (r : Record) : String :=
  r.title ++ " with " ++
    (if r.names.length = 1 then "1 element" else toString r.names.length ++ " elements")

/-- A field of a record. -/
def field {α : Type} (r : Record) (name : String) (absent : Absent α) (decode : Decoder α) :
    Located α :=
  match r.parts with
  | .named members _ =>
    match find? name 0 members with
    | some (place, value) =>
      match decode r.pass value with
      | .ok a => .of a
      | .error e => .failure place (e.under (.key name))
    | none =>
      match absent with
      | .refused => .failure (members.length + 1) (.misfit [] (.missing name))
      | .unnamed a | .replaced a => .of a
  | .listed items ending =>
    let place := r.names.idxOf name
    match items[place]? with
    | some value =>
      match decode r.pass value with
      | .ok a => .of a
      | .error e => .failure place (e.under (.index place))
    | none =>
      match ending, absent with
      | .closed, .replaced a => .of a
      | _, _ => .failure items.length (Decoder.arrayTooShort items ending r.sizeText)

/-- The first thing wrong with a list of members, apart from the values of the known ones: a key that is
no text, a fault under an unknown key, a known key that was there before, or the end of the list. -/
def strayMember? (names : List String) (ending : ObjectEnd) :
    Nat → List String → List (Quotation × Node) → Option (Nat × DecodeError)
  | place, _, [] => ending.strictFault?.map fun fault => (place, .fault fault)
  | place, _, (.error fault, _) :: _ => some (place, .fault fault)
  | place, seen, (.ok key, value) :: rest =>
    if key ∈ names then
      if key ∈ seen then some (place, .misfit [] (.repeated key))
      else strayMember? names ending (place + 1) (key :: seen) rest
    else
      match value.fault? with
      | some fault => some (place, .fault fault)
      | none => strayMember? names ending (place + 1) seen rest

/-- Everything wrong with the parts of a record except the values of its fields. -/
def remainder (r : Record) : Located Unit :=
  match r.parts with
  | .named members ending =>
    match strayMember? r.names ending 0 [] members with
    | none => .of ()
    | some (place, error) => .failure place error
  | .listed items ending =>
    if items.length < r.names.length then .of ()
    else
      match Decoder.endOfArray r.pass r.names.length (items.drop r.names.length) ending with
      | none => .of ()
      | some error => .failure items.length error

end Record

/-- A record with the given title and fields; `build` puts it together. -/
def record {α : Type} (title : String) (names : List String) (build : Record → Located α) : Decoder α :=
  fun pass node =>
    let read (parts : Parts) : Except DecodeError α :=
      let r : Record := ⟨pass, title, names, parts⟩
      (Located.both (Located.both (.of fun a _ => a) (build r)) r.remainder).toExcept
    match node with
    | .object members ending => read (.named members ending)
    | .array items ending => read (.listed items ending)
    | node => .error (node.unwanted title)

/-! ## Whole texts -/

/-- The value that a text holds, and nothing else. -/
def decodeText {α : Type} (decode : Decoder α) (text : String) : Except DecodeError α := do
  let document := Document.read text
  let a ← decode .direct document.root
  if document.more then throw (.fault .trailingCharacters) else return a

end Appraisal.Json
