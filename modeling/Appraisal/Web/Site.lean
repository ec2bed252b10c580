/-
The desk as a site: paths, methods, and what is answered to them.

There are six routes. Deals are posted to one of them, everything else is asked for. A path that is none of
the routes is not found, and a known path with another method is refused with the methods that it knows.
Whoever asks for the head of an answer gets the same answer without its body.

A posted deal has to be announced as JSON, and its body may not be longer than two mebibytes. The bytes are
read from the front, and what stands behind the first value is not looked at. Bytes that are no JSON and JSON
that is no deal are told apart, and the latter is answered with the place of the first misfit.
-/
import Appraisal.Desk
import Appraisal.Evaluation.Format
import Appraisal.Json.Bytes
import Appraisal.Web.MediaType

set_option autoImplicit false

namespace Appraisal.Web

open Json

/-! ## Calls and answers -/

/-- A request to the site. -/
structure Call where
  method : String
  path : String
  contentType : Option String
  body : ByteArray

/-- The number of bytes that the body of a request may have. -/
def bodyLimit : Nat := 2 * 1024 * 1024

/-- What an answer carries. -/
inductive Body where
  | empty
  | json (value : Json)
  | text (text : String)

/-- An answer of the site. -/
structure Answer where
  status : Nat
  contentType : Option String
  allow : Option String
  body : Body

namespace Answer

/-- An answer that is nothing but its status. -/
def bare (status : Nat) : Answer :=
  ⟨status, none, none, .empty⟩

/-- An answer in JSON. -/
def json (status : Nat) (value : Json) : Answer :=
  ⟨status, some "application/json", none, .json value⟩

/-- An answer in words. -/
def plain (status : Nat) (text : String) : Answer :=
  ⟨status, some "text/plain; charset=utf-8", none, .text text⟩

/-- The answer to a method that the path does not know. -/
def wrongMethod (known : String) : Answer :=
  { bare 405 with allow := some known }

/-- The answer without its body. -/
def headOnly (answer : Answer) : Answer :=
  { answer with body := .empty }

end Answer

/-! ## Paths -/

/-- A value of a hexadecimal digit. -/
def hexValue? (b : UInt8) : Option UInt8 :=
  if 48 ≤ b && b ≤ 57 then some (b - 48)
  else if 65 ≤ b && b ≤ 70 then some (b - 55)
  else if 97 ≤ b && b ≤ 102 then some (b - 87)
  else none

/-- Replaces every percent sign with two hexadecimal digits by the byte that they stand for. A percent
sign without them stands for itself. -/
def percentDecode : List UInt8 → List UInt8
  | [] => []
  | [a] => [a]
  | [a, b] => [a, b]
  | a :: b :: c :: rest =>
    if a = 37 then
      match hexValue? b, hexValue? c with
      | some high, some low => (16 * high + low) :: percentDecode rest
      | _, _ => a :: percentDecode (b :: c :: rest)
    else a :: percentDecode (b :: c :: rest)

/-- A segment of a path as text, unless its bytes are none. -/
def decodeSegment (segment : String) : Option String :=
  String.fromUTF8? (ByteArray.mk (percentDecode segment.toUTF8.data.toList).toArray)

/-- The routes of the site. -/
inductive Route where
  | evaluations
  | evaluation (segment : String)
  | rules
  | health
  | ready
  | metrics
  deriving DecidableEq

/-- The path of a target, without the query behind it. -/
def pathOf (target : String) : String :=
  String.ofList (target.toList.takeWhile fun c => c ≠ '?' && c ≠ '#')

/-- The characters between slashes. -/
def splitAtSlashes : List Char → List (List Char)
  | [] => [[]]
  | c :: rest =>
    if c = '/' then [] :: splitAtSlashes rest
    else
      match splitAtSlashes rest with
      | [] => [[c]]
      | segment :: more => (c :: segment) :: more

/-- The segments of a path; the first one is empty, because a path starts with a slash. -/
def segments (path : String) : List String :=
  (splitAtSlashes path.toList).map String.ofList

/-- The route at a path. -/
def Route.ofPath? (path : String) : Option Route :=
  match segments path with
  | ["", "health"] => some .health
  | ["", "ready"] => some .ready
  | ["", "metrics"] => some .metrics
  | ["", "api", "v1", "rules"] => some .rules
  | ["", "api", "v1", "evaluations"] => some .evaluations
  | ["", "api", "v1", "evaluations", segment] =>
    if segment.isEmpty then none else some (.evaluation segment)
  | _ => none

/-! ## Answers of the routes -/

/-- An answer that is nothing but a complaint. -/
def complaint (status : Nat) (message : String) : Answer :=
  .json status (.object [("error", .string message)])

/-- The answer about the state of the site. -/
def healthAnswer : Answer :=
  .json 200 (.object [
    ("status", .string "ok"),
    ("compilerVersion", .string evaluatorVersion),
    ("schemaVersion", .string schemaVersion),
    ("rulesetVersion", .string rulesetVersion)])

/-- The answer about whether the site is ready. -/
def readyAnswer (isReady : Bool) : Answer :=
  if isReady then .json 200 (.object [("status", .string "ready")])
  else .json 503 (.object [("status", .string "initializing")])

/-- The answer about measurements, of which there are none. -/
def metricsAnswer : Answer :=
  ⟨200, some "text/plain; version=0.0.4", none, .text ""⟩

/-- The answer to bytes that are no request. -/
def unreadableAnswer : DecodeError → Answer
  | .fault _ => .plain 400 "Failed to parse the request body as JSON"
  | .misfit path misfit =>
    .plain 422 ("Failed to deserialize the JSON body into the target type: "
      ++ (if path.isEmpty then "" else pathText path ++ ": ") ++ misfit.message)

/-- The answer to a deal that could not be evaluated. -/
def deskErrorAnswer : DeskError → Answer
  | .refused refusal => complaint 422 refusal.message
  | error => complaint 500 error.message

/-- The answer to a fingerprint under which nothing is kept. -/
def notFoundAnswer (fingerprint : String) : Answer :=
  .json 404 (.object [
    ("inputHash", .string fingerprint),
    ("rulesetVersion", .string rulesetVersion),
    ("error", .string "no evaluation cached for this input under the current ruleset")])

section Stores

variable {σ : Type} [Store σ]

/-- Takes in a posted deal. What a body announces is looked at before how long it is, and a body that is too long
is not read. -/
def postEvaluation (store : σ) (contentType : Option String) (body : ByteArray) : Answer × σ :=
  if !contentType.any announcesJson then
    (.plain 415 "Expected request with `Content-Type: application/json`", store)
  else if bodyLimit < body.size then
    (.plain 413 "Failed to buffer the request body: length limit exceeded", store)
  else
    match decodeStart (decode : Decoder Request) body with
    | .error error => (unreadableAnswer error, store)
    | .ok request =>
      match Desk.evaluate store request with
      | (.ok evaluation, store) => (.json 200 (encode evaluation), store)
      | (.error error, store) => (deskErrorAnswer error, store)

/-- Looks an evaluation up. -/
def getEvaluation (store : σ) (segment : String) : Answer :=
  match decodeSegment segment with
  | none => .plain 400 "Invalid URL: Invalid UTF-8 in `input_hash`"
  | some fingerprint =>
    match Desk.lookup store fingerprint with
    | .ok evaluation => .json 200 (encode evaluation)
    | .error (.notFound fingerprint) => notFoundAnswer fingerprint
    | .error error => complaint 500 error.message

/-- The answer to a question. -/
def get (isReady : Bool) (store : σ) : Route → Answer
  | .evaluations => .wrongMethod "POST"
  | .evaluation segment => getEvaluation store segment
  | .rules => .json 200 registryJson
  | .health => healthAnswer
  | .ready => readyAnswer isReady
  | .metrics => metricsAnswer

/-! ## The site -/

/-- Answers a call. -/
def respond (isReady : Bool) (store : σ) (call : Call) : Answer × σ :=
  match Route.ofPath? (pathOf call.path) with
  | none => (.bare 404, store)
  | some .evaluations =>
    if call.method = "POST" then postEvaluation store call.contentType call.body
    else (.wrongMethod "POST", store)
  | some route =>
    if call.method = "GET" then (get isReady store route, store)
    else if call.method = "HEAD" then ((get isReady store route).headOnly, store)
    else (.wrongMethod "GET,HEAD", store)

end Stores

end Appraisal.Web
