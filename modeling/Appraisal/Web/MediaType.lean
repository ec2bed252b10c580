/-
Media types, as far as it takes to tell whether a body is announced as JSON.

A media type is `type/subtype`, and behind it parameters `; name=value`, whose values may stand in
quotation marks. The part of the subtype behind its last plus sign is the suffix. JSON is announced by the
type `application` and by `json` either as the subtype in front of the suffix or as the suffix itself. Case
does not matter; a text that breaks the grammar announces nothing.
-/
import Appraisal.Text.Blank

set_option autoImplicit false

namespace Appraisal.Web

/-! ## Characters -/

/-- A character of a name: an ASCII letter or digit, or one of a few signs. -/
def isTokenChar (c : Char) : Bool :=
  c.isAlphanum || "!#$%&'*+-.^_`|~".toList.contains c

/-- A character inside quotation marks: ASCII without the control characters. -/
def isQuotedChar (c : Char) : Bool :=
  31 < c.toNat && c.toNat < 127

/-! ## Parameters -/

/-- Where reading stands among the parameters. Every value has to have a character. -/
inductive ParameterState where
  /-- In front of a name, where blanks may stand. -/
  | start
  /-- Inside a name. -/
  | name
  /-- Behind an equals sign. -/
  | value
  /-- Inside a bare value. -/
  | bare
  /-- Behind an opening quotation mark. -/
  | opened
  /-- Inside a quoted value. -/
  | quoted
  /-- Behind a quoted value, where blanks may stand. -/
  | closed

namespace ParameterState

/-- The next state, or nothing if the character cannot stand here. -/
def next (c : Char) : ParameterState → Option ParameterState
  | start =>
    if c = ' ' then some start else if isTokenChar c then some name else none
  | name =>
    if c = '=' then some value else if isTokenChar c then some name else none
  | value =>
    if c = '"' then some opened else if isTokenChar c then some bare else none
  | bare =>
    if c = ';' then some start else if isTokenChar c then some bare else none
  | opened => if isQuotedChar c then some quoted else none
  | quoted =>
    if c = '"' then some closed else if isQuotedChar c then some quoted else none
  | closed =>
    if c = ';' then some start else if c = ' ' then some closed else none

/-- May the text end here? -/
def isFinal : ParameterState → Bool
  | start | value | bare | closed => true
  | name | opened | quoted => false

end ParameterState

/-- Are these parameters, from the state on? -/
def areParameters (state : ParameterState) : List Char → Bool
  | [] => state.isFinal
  | c :: rest =>
    match state.next c with
    | some state => areParameters state rest
    | none => false

/-! ## Types -/

/-- The parts of a subtype in front of and behind its last plus sign, if it has one behind its start. -/
def splitSuffix (subtype : List Char) : List Char × List Char :=
  let behind := (subtype.reverse.takeWhile (· ≠ '+')).reverse
  let front := subtype.take (subtype.length - behind.length - 1)
  if front.isEmpty then (subtype, []) else (front, behind)

/-- Is JSON announced by this text? -/
def announcesJson (text : String) : Bool :=
  let cs := (Text.lower text).toList
  let type := cs.takeWhile isTokenChar
  match cs.drop type.length with
  | '/' :: rest =>
    let subtype := rest.takeWhile isTokenChar
    let (front, suffix) := splitSuffix subtype
    let isWellFormed :=
      match rest.drop subtype.length with
      | [] => true
      | ';' :: parameters => !subtype.isEmpty && areParameters .start parameters
      | _ => false
    isWellFormed && type = "application".toList
      && (front = "json".toList || suffix = "json".toList)
  | _ => false

end Appraisal.Web
