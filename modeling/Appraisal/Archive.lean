/-
Where evaluations are kept so that they can be looked up again.

An evaluation is kept under the fingerprint of its deal and the version of the ruleset, so a change of the
rules leaves what was kept before in place but out of reach. The archive holds a limited number of
evaluations, at least one. When a new key comes in and the archive is full, the key that came first goes;
storing again under a key that is there replaces the evaluation and leaves the key in its place.

A store may also be out of order as a whole, and then every request to it fails. Whoever works with a store
only relies on the class `Store`.
-/
import Std.Data.HashMap
import Appraisal.Evaluation.Basic
import Appraisal.Json.Codec

set_option autoImplicit false

namespace Appraisal

open Json

/-! ## Keys -/

/-- What an evaluation is kept under. -/
structure ArchiveKey where
  fingerprint : String
  rulesetVersion : String
  deriving DecidableEq, Hashable

namespace ArchiveKey

/-- The key of a deal under the ruleset of this library. -/
def current (fingerprint : String) : ArchiveKey :=
  ⟨fingerprint, Appraisal.rulesetVersion⟩

/-- The key of an evaluation under the ruleset that it was made with. -/
def of (evaluation : Evaluation) : ArchiveKey :=
  ⟨evaluation.trace.fingerprint, evaluation.trace.rulesetVersion⟩

instance : Codec ArchiveKey where
  encode k := .object [
    ("inputHash", encode k.fingerprint),
    ("rulesetVersion", encode k.rulesetVersion)]
  decode := record "struct CacheKey" ["inputHash", "rulesetVersion"] fun r =>
    ArchiveKey.mk <$> r.get "inputHash" <*> r.get "rulesetVersion"

end ArchiveKey

/-! ## Stores -/

/-- Why a store does not answer. -/
structure Outage where
  reason : String
  deriving DecidableEq

/-- An outage in words. -/
def Outage.message (outage : Outage) : String :=
  "cache unavailable: " ++ outage.reason

/-- Something that keeps evaluations. -/
class Store (σ : Type) where
  /-- Keeps an evaluation and says whether it replaced another one. -/
  put : σ → ArchiveKey → Evaluation → Except Outage (Bool × σ)
  /-- The evaluation under a key. -/
  get? : σ → ArchiveKey → Except Outage (Option Evaluation)

/-- A store that is out of order never answers. -/
instance : Store Outage where
  put outage _ _ := .error outage
  get? outage _ := .error outage

/-! ## The archive -/

/-- A limited number of evaluations, and their keys in the order in which these came in. -/
structure Archive where
  capacity : Nat
  entries : Std.HashMap ArchiveKey Evaluation
  arrivals : List ArchiveKey

namespace Archive

/-- An archive without entries. Whatever number is asked for, there is room for one. -/
def empty (maxEntries : Nat) : Archive where
  capacity := max 1 maxEntries
  entries := ∅
  arrivals := []

/-- The evaluation under a key. -/
def get? (archive : Archive) (key : ArchiveKey) : Option Evaluation :=
  archive.entries[key]?

/-- Gives up the oldest entries as long as there are too many. -/
def shrink (capacity : Nat) (entries : Std.HashMap ArchiveKey Evaluation) :
    List ArchiveKey → Archive
  | [] => ⟨capacity, entries, []⟩
  | oldest :: rest =>
    if entries.size ≤ capacity then ⟨capacity, entries, oldest :: rest⟩
    else shrink capacity (entries.erase oldest) rest

/-- Keeps an evaluation under a key, and says whether it replaced another one. -/
def put (archive : Archive) (key : ArchiveKey) (evaluation : Evaluation) : Bool × Archive :=
  let entries := archive.entries.insert key evaluation
  if archive.entries.contains key then (true, { archive with entries })
  else (false, shrink archive.capacity entries (archive.arrivals ++ [key]))

end Archive

/-- An archive always answers. -/
instance : Store Archive where
  put archive key evaluation := .ok (archive.put key evaluation)
  get? archive key := .ok (archive.get? key)

end Appraisal
