/-
Log filters: a list of directives that say what is logged, from where, and how loudly.

The directives are separated by commas, and an empty one says nothing. A directive is a target, a level, or
`target=level`; in front of the equals sign a span may stand in brackets, with a field in braces inside it.
A level is one of six words or a number up to five, and one that is left out means everything.

A target can be almost anything. So a directive is broken only where its grammar leaves no choice: a first
character that starts nothing, a bracket or a brace that is not closed, an empty field, something other
than an equals sign behind a span, an unknown level. A filter is accepted or not; nothing of it is kept
here.

The grammar passes over the blanks around a directive, but the level is cut out of the directive as it was
written, at the place that the grammar found. So a blank in front of the directive or behind its level
leaves no level that anybody knows.
-/
import Appraisal.Text.Alphanumeric
import Appraisal.Text.Number

set_option autoImplicit false

namespace Appraisal.LogFilter

/-! ## Levels -/

/-- The levels by their words. -/
def levelWords : List String :=
  ["off", "error", "warn", "info", "debug", "trace"]

/-- Is this a level, by number or by word? -/
def isLevel (text : String) : Bool :=
  (Text.natural? text).any (· ≤ 5) || levelWords.any (Text.sameLetters text)

/-! ## Directives -/

/-- Where reading stands inside a directive. -/
inductive Place where
  /-- In front of the first character. -/
  | start
  /-- Inside a target, which may yet turn out to be a level. -/
  | target
  /-- Inside the brackets of a span. -/
  | span
  /-- Inside braces, and whether anything stood there yet. -/
  | field (isEmpty : Bool)
  /-- Behind the closing brace. -/
  | behindField
  /-- Behind the closing bracket. -/
  | behindSpan
  /-- Behind the equals sign, so many characters from the start. -/
  | level (position : Nat)
  deriving DecidableEq

/-- Can a target start with this character? -/
def startsTarget (c : Char) : Bool :=
  c = '-' || c = ':' || c = '_' || Text.isAlphanumeric c

/-- The place behind a character, or nothing if the character cannot stand here. -/
def Place.next (position : Nat) (c : Char) : Place → Option Place
  | start =>
    if c = '[' then some span else if startsTarget c then some target else none
  | target =>
    if c = '=' then some (level (position + 1)) else if c = '[' then some span else some target
  | span =>
    if c = ']' then some behindSpan else if c = '\x7b' then some (field true) else some span
  | field isEmpty =>
    if c = '\x7d' then (if isEmpty then none else some behindField) else some (field false)
  | behindField => if c = ']' then some behindSpan else none
  | behindSpan => if c = '=' then some (level (position + 1)) else none
  | level found => some (level found)

/-- The place behind all of a directive. -/
def scan (position : Nat) (place : Place) : List Char → Option Place
  | [] => some place
  | c :: rest =>
    match place.next position c with
    | some place => scan (position + 1) place rest
    | none => none

/-- Is this a directive? -/
def isDirective (directive : List Char) : Bool :=
  match scan 0 .start (Text.trimChars directive) with
  | some .target | some .behindSpan => true
  | some (.level position) =>
    let level := directive.drop position
    level.isEmpty || isLevel (String.ofList level)
  | _ => false

/-! ## Filters -/

/-- The characters between commas. -/
def splitAtCommas : List Char → List (List Char)
  | [] => [[]]
  | c :: rest =>
    if c = ',' then [] :: splitAtCommas rest
    else
      match splitAtCommas rest with
      | [] => [[c]]
      | directive :: more => (c :: directive) :: more

/-- Is this a filter? -/
def isValid (text : String) : Bool :=
  (splitAtCommas text.toList).all fun directive => directive.isEmpty || isDirective directive

end Appraisal.LogFilter
