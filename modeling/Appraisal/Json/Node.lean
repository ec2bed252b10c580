/-
JSON text as a tree that still knows where it is broken.

A reader of this library asks for a certain shape of data, and the first thing wrong in the order of the
text is the answer, be it a misplaced comma or a field of the wrong type. So text is not first judged and
then interpreted: it becomes a tree in which every fault sits at the place where it was met, and whoever
walks the tree in the order of the text meets the faults and the misfits in the right order.

Text that nobody asks for is treated more leniently than text that is read. Under a key that means
nothing to the reader, a string may hold half of a surrogate pair and a number may be too large for a
double. So a node keeps enough to say both: `fault?` walks a node that is passed over, `strictFault?` one
that is taken in whole, and the decoders of `Appraisal.Json.Decoder` read one that they have a use for.
-/
import Appraisal.Json.Fault
import Appraisal.Decimal.Literal

set_option autoImplicit false

namespace Appraisal.Json

/-! ## The tree -/

/-- The characters of a string that is properly closed; if its escapes do not spell characters, the fault
that shows when the string is read. -/
abbrev Quotation := Except Fault String

/-- What stands in the place of a value that is none. Nothing behind it is looked at. -/
inductive Wreck where
  /-- The text ends where a value is due. -/
  | absent
  /-- No value starts with this character. -/
  | stray
  /-- A word that starts like `null` and is not. -/
  | nullWord (fault : Fault)
  /-- A word that starts like `true` or `false` and is neither. -/
  | boolWord (fault : Fault)
  /-- A number that breaks off. -/
  | number (fault : Fault)
  /-- A string that is not closed: what reading says, and what passing over says. -/
  | string (whenRead : Fault) (whenPassedOver : Fault)
  /-- A key without its colon. -/
  | noColon (fault : Fault)
  deriving DecidableEq

/-- How an array goes on behind its last item. -/
inductive ArrayEnd where
  /-- The closing bracket. -/
  | closed
  /-- The text ends where a comma or the bracket could stand. -/
  | cut
  /-- The text ends behind a comma. -/
  | cutAfterComma
  /-- The bracket follows a comma. -/
  | strayComma
  /-- Something else stands where a comma or the bracket could. -/
  | noComma
  deriving DecidableEq

/-- How an object goes on behind its last member. -/
inductive ObjectEnd where
  /-- The closing brace. -/
  | closed
  /-- The text ends where a key, a comma or the brace could stand. -/
  | cut
  /-- The text ends behind a comma. -/
  | cutAfterComma
  /-- The brace follows a comma. -/
  | strayComma
  /-- Something else stands where a comma or the brace could. -/
  | noComma
  /-- Something that is no string stands where a key is due. -/
  | notAKey
  deriving DecidableEq

/-- JSON text, whole or broken. In a list of items or members only the last one can be broken beyond its
own end, because nothing behind such a place is looked at; the end of the list then means nothing. -/
inductive Node where
  | null
  | bool (value : Bool)
  | number (literal : Literal)
  | string (text : Quotation)
  | array (items : List Node) (ending : ArrayEnd)
  | object (members : List (Quotation × Node)) (ending : ObjectEnd)
  | broken (wreck : Wreck)

/-- A whole text: its first value, and whether anything but white space follows. -/
structure Document where
  root : Node
  more : Bool

/-! ## Single faults -/

/-- The fault of a wreck that is read. -/
def Wreck.strictFault : Wreck → Fault
  | .absent => .endInValue
  | .stray => .valueExpected
  | .nullWord fault | .boolWord fault | .number fault | .noColon fault => fault
  | .string whenRead _ => whenRead

/-- The fault of a wreck that is passed over. -/
def Wreck.fault : Wreck → Fault
  | .absent => .endInValue
  | .stray => .valueExpected
  | .nullWord fault | .boolWord fault | .noColon fault => fault
  | .number _ => .badNumber
  | .string _ whenPassedOver => whenPassedOver

/-- The fault at the end of an array that is read. -/
def ArrayEnd.strictFault? : ArrayEnd → Option Fault
  | .closed => none
  | .cut => some .endInList
  | .cutAfterComma => some .endInValue
  | .strayComma => some .trailingComma
  | .noComma => some .listCommaExpected

/-- The fault at the end of an array that is passed over, where a value is due behind every comma. -/
def ArrayEnd.fault? : ArrayEnd → Option Fault
  | .closed => none
  | .cut => some .endInList
  | .cutAfterComma => some .endInValue
  | .strayComma => some .valueExpected
  | .noComma => some .listCommaExpected

/-- The fault at the end of an object that is read. -/
def ObjectEnd.strictFault? : ObjectEnd → Option Fault
  | .closed => none
  | .cut => some .endInObject
  | .cutAfterComma => some .endInValue
  | .strayComma => some .trailingComma
  | .noComma => some .objectCommaExpected
  | .notAKey => some .keyNotString

/-- The fault at the end of an object that is passed over, where a key is due behind every comma. -/
def ObjectEnd.fault? : ObjectEnd → Option Fault
  | .closed => none
  | .cut => some .endInObject
  | .cutAfterComma => some .endInObject
  | .strayComma => some .keyNotString
  | .noComma => some .objectCommaExpected
  | .notAKey => some .keyNotString

/-! ## Passing over -/

mutual

/-- The first fault of a node that nobody reads. Keys and strings need only be closed, numbers only be
well formed, and there is no limit of depth. -/
def Node.fault? : Node → Option Fault
  | .null => none
  | .bool _ => none
  | .number _ => none
  | .string _ => none
  | .array items ending => (itemsFault? items).or ending.fault?
  | .object members ending => (membersFault? members).or ending.fault?
  | .broken wreck => some wreck.fault

/-- The first fault among items that nobody reads. -/
def itemsFault? : List Node → Option Fault
  | [] => none
  | item :: rest => item.fault?.or (itemsFault? rest)

/-- The first fault among members that nobody reads. -/
def membersFault? : List (Quotation × Node) → Option Fault
  | [] => none
  | (_, value) :: rest => value.fault?.or (membersFault? rest)

end

/-! ## Taking in whole -/

mutual

/-- The first fault of a node that is taken in whole before anybody knows what it is for: strings must
spell characters, numbers must have a value, and containers may be nested only `room` deep. -/
def Node.strictFault? (room : Nat) : Node → Option Fault
  | .null => none
  | .bool _ => none
  | .number literal => if literal.numeral.isNone then some .numberTooLarge else none
  | .string (.ok _) => none
  | .string (.error fault) => some fault
  | .array items ending =>
    match room with
    | 0 => some .tooDeep
    | room + 1 => (itemsStrictFault? room items).or ending.strictFault?
  | .object members ending =>
    match room with
    | 0 => some .tooDeep
    | room + 1 => (membersStrictFault? room members).or ending.strictFault?
  | .broken wreck => some wreck.strictFault

/-- The first fault among items that are taken in whole. -/
def itemsStrictFault? (room : Nat) : List Node → Option Fault
  | [] => none
  | item :: rest => (item.strictFault? room).or (itemsStrictFault? room rest)

/-- The first fault among members that are taken in whole. -/
def membersStrictFault? (room : Nat) : List (Quotation × Node) → Option Fault
  | [] => none
  | (.error fault, _) :: _ => some fault
  | (.ok _, value) :: rest => (value.strictFault? room).or (membersStrictFault? room rest)

end

end Appraisal.Json
