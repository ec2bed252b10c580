/-
What the site answers after any history of calls.

Every call uses the archive at most once, so calls that overlap leave the site as some sequence of the same
calls does: the one in which they reached the archive. A history is that sequence, and it may mix posts,
questions and anything else in any way.

Of a history only the accepted posts matter (`after_eq_keep`), each through the fingerprint and the evaluation
that it was answered with. From what is known about runs of stores it follows which questions are answered
afterwards, and with what.
-/
import Mathlib.Data.List.Find
import Appraisal.Proofs.Archive
import Appraisal.Proofs.Course
import Appraisal.Proofs.DealText
import Appraisal.Proofs.LookupPath

set_option autoImplicit false

namespace Appraisal.Web

open Json

/-! ## What a call asks for -/

namespace Call

/-- Is a deal posted? -/
def IsPost (call : Call) : Prop :=
  Route.ofPath? (pathOf call.path) = some .evaluations ∧ call.method = "POST"

instance (call : Call) : Decidable call.IsPost :=
  inferInstanceAs (Decidable (_ ∧ _))

/-- The evaluation of the posted deal, if one is posted, is not too long, can be read and is admitted. -/
def accepted? (call : Call) : Option Evaluation :=
  if call.IsPost ∧ call.contentType.any announcesJson = true ∧ call.body.size ≤ bodyLimit then
    match decodeStart (decode : Decoder Request) call.body with
    | .error _ => none
    | .ok request =>
      match request.deal.vet request.options.timestamp with
      | .error _ => none
      | .ok _ => some (request.deal.evaluate request.options.timestamp)
  else none

/-- Is the evaluation with this fingerprint asked for? -/
def AsksFor (call : Call) (fingerprint : String) : Prop :=
  call.method = "GET" ∧ ∃ segment, Route.ofPath? (pathOf call.path) = some (.evaluation segment)
    ∧ decodeSegment segment = some fingerprint

end Call

/-! ## Histories -/

/-- The archive after a history of calls. -/
def after (isReady : Bool) (archive : Archive) (calls : List Call) : Archive :=
  calls.foldl (fun archive call => (respond isReady archive call).2) archive

/-- The fingerprints of the accepted posts whose fingerprint was not there when they were stored, in order. -/
def freshFingerprints (isReady : Bool) : Archive → List Call → List String
  | _, [] => []
  | archive, call :: rest =>
    (match call.accepted? with
      | none => []
      | some evaluation =>
        if (archive.get? (.current evaluation.trace.fingerprint)).isSome then []
        else [evaluation.trace.fingerprint])
      ++ freshFingerprints isReady (respond isReady archive call).2 rest

/-- The evaluation of the last accepted post with a fingerprint. -/
def lastAccepted? (calls : List Call) (fingerprint : String) : Option Evaluation :=
  (calls.filterMap Call.accepted?).reverse.find? fun evaluation =>
    evaluation.trace.fingerprint = fingerprint

/-! ## One call -/

section OneCall

variable (isReady : Bool) (archive : Archive) {call : Call}

theorem respond_of_isPost (h : call.IsPost) :
    respond isReady archive call = postEvaluation archive call.contentType call.body := by
  rw [respond, h.1]
  simp only [h.2, if_true]

/-- A call that posts nothing leaves the archive as it is. -/
theorem respond_of_not_isPost (h : ¬ call.IsPost) : (respond isReady archive call).2 = archive := by
  rw [respond]
  split
  · rfl
  · next hroute =>
      have hmethod : call.method ≠ "POST" := fun hmethod => h ⟨hroute, hmethod⟩
      rw [if_neg hmethod]
  · split
    · rfl
    · split <;> rfl

/-- An accepted post is answered with its evaluation, which is stored under its fingerprint. -/
theorem respond_of_accepted {evaluation : Evaluation} (h : call.accepted? = some evaluation) :
    respond isReady archive call
      = (.json 200 (encode evaluation), (archive.put (.of evaluation) evaluation).2) := by
  rw [Call.accepted?] at h
  split at h
  case isFalse => exact absurd h nofun
  case isTrue hpost =>
    obtain ⟨hpost, htype, hsize⟩ := hpost
    rw [respond_of_isPost isReady archive hpost, postEvaluation, if_neg (by simp [htype]),
      if_neg (Nat.not_lt.mpr hsize)]
    cases hrequest : decodeStart (decode : Decoder Request) call.body with
    | error error => exact absurd (hrequest ▸ h) nofun
    | ok request =>
        rw [hrequest] at h
        simp only at h ⊢
        cases hvet : request.deal.vet request.options.timestamp with
        | error refusal => exact absurd (hvet ▸ h) nofun
        | ok admitted =>
            rw [hvet] at h
            cases h
            rw [Desk.evaluate, hvet]
            rfl

theorem status_unreadableAnswer (error : DecodeError) : (unreadableAnswer error).status ≠ 200 := by
  cases error <;> simp [unreadableAnswer, Answer.plain]

/-- A body that is not announced as JSON is turned away unread, and so is one that is too long. -/
theorem postEvaluation_of_not_taken {contentType : Option String} {body : ByteArray}
    (h : ¬(contentType.any announcesJson = true ∧ body.size ≤ bodyLimit)) :
    (postEvaluation archive contentType body).2 = archive
      ∧ (postEvaluation archive contentType body).1.status ≠ 200 := by
  rw [postEvaluation]
  by_cases htype : contentType.any announcesJson = true
  · have hlong : bodyLimit < body.size := Nat.lt_of_not_le fun hsize => h ⟨htype, hsize⟩
    rw [if_neg (by simp [htype]), if_pos hlong]
    exact ⟨rfl, by simp [Answer.plain]⟩
  · rw [if_pos (by simp [htype])]
    exact ⟨rfl, by simp [Answer.plain]⟩

/-- Every other call leaves the archive as it is, and no other post is answered with `200`. -/
theorem respond_of_not_accepted (h : call.accepted? = none) :
    (respond isReady archive call).2 = archive
      ∧ (call.IsPost → (respond isReady archive call).1.status ≠ 200) := by
  by_cases hpost : call.IsPost
  · rw [respond_of_isPost isReady archive hpost]
    by_cases htaken : call.contentType.any announcesJson = true ∧ call.body.size ≤ bodyLimit
    · rw [Call.accepted?, if_pos ⟨hpost, htaken⟩] at h
      rw [postEvaluation, if_neg (by simp [htaken.1]), if_neg (Nat.not_lt.mpr htaken.2)]
      cases hrequest : decodeStart (decode : Decoder Request) call.body with
      | error error => exact ⟨rfl, fun _ => status_unreadableAnswer error⟩
      | ok request =>
          rw [hrequest] at h
          simp only at h ⊢
          split at h
          · next hvet =>
              rw [Desk.evaluate, hvet]
              exact ⟨rfl, fun _ => by simp [deskErrorAnswer, complaint, Answer.json]⟩
          · exact absurd h nofun
    · obtain ⟨hkept, hstatus⟩ := postEvaluation_of_not_taken archive htaken
      exact ⟨hkept, fun _ => hstatus⟩
  · exact ⟨respond_of_not_isPost isReady archive hpost, fun h => absurd h hpost⟩

/-- Who asks for a fingerprint is answered with what is kept under it. -/
theorem respond_of_asksFor {fingerprint : String} (h : call.AsksFor fingerprint) :
    respond isReady archive call
      = ((match archive.get? (.current fingerprint) with
          | some evaluation => .json 200 (encode evaluation)
          | none => notFoundAnswer fingerprint), archive) := by
  obtain ⟨hmethod, segment, hroute, hsegment⟩ := h
  rw [respond, hroute]
  simp only [hmethod, if_true, get, getEvaluation, hsegment, Desk.lookup, Store.get?]
  cases archive.get? (.current fingerprint) <;> rfl

end OneCall

/-- An accepted evaluation was made under the ruleset of this library. -/
theorem rulesetVersion_of_accepted {call : Call} {evaluation : Evaluation}
    (h : call.accepted? = some evaluation) : evaluation.trace.rulesetVersion = rulesetVersion := by
  rw [Call.accepted?] at h
  split at h
  · split at h
    · exact absurd h nofun
    · split at h
      · exact absurd h nofun
      · cases h
        exact Deal.rulesetVersion_trace_evaluate _ _
  · exact absurd h nofun

/-- What is kept for an accepted evaluation is found again under its fingerprint. -/
theorem key_of_accepted {call : Call} {evaluation : Evaluation} (h : call.accepted? = some evaluation) :
    ArchiveKey.of evaluation = .current evaluation.trace.fingerprint := by
  rw [ArchiveKey.of, rulesetVersion_of_accepted h, ArchiveKey.current]

/-! ## A history of calls -/

/-- What a history stores: the accepted evaluations under their keys, in order. -/
def stored (calls : List Call) : List Archive.Item :=
  (calls.filterMap Call.accepted?).map fun evaluation => (.of evaluation, evaluation)

variable (isReady : Bool)

theorem after_cons (archive : Archive) (call : Call) (rest : List Call) :
    after isReady archive (call :: rest) = after isReady (respond isReady archive call).2 rest := by
  rw [after, List.foldl_cons, after]

/-- **Only the accepted posts of a history matter.** -/
theorem after_eq_keep (archive : Archive) (calls : List Call) :
    after isReady archive calls = archive.keep (stored calls) := by
  induction calls generalizing archive with
  | nil => rfl
  | cons call rest ih =>
      rw [after_cons, ih]
      cases h : call.accepted? with
      | none =>
          rw [(respond_of_not_accepted isReady archive h).1, stored, stored,
            List.filterMap_cons_none h]
      | some evaluation =>
          rw [respond_of_accepted isReady archive h, stored, stored, List.filterMap_cons_some h]
          rfl

theorem after_singleton (archive : Archive) {call : Call} {evaluation : Evaluation}
    (h : call.accepted? = some evaluation) :
    after isReady archive [call] = (archive.put (.of evaluation) evaluation).2 := by
  rw [after_cons, respond_of_accepted isReady archive h, after, List.foldl_nil]

theorem sound_after (maxEntries : Nat) (calls : List Call) :
    (after isReady (.empty maxEntries) calls).Sound := by
  rw [after_eq_keep]
  exact (Archive.sound_empty maxEntries).keep (stored calls)

/-- The fresh fingerprints are those of the keys that came in as new. -/
theorem map_freshFingerprints (archive : Archive) (calls : List Call) :
    (freshFingerprints isReady archive calls).map ArchiveKey.current
      = archive.newKeys (stored calls) := by
  induction calls generalizing archive with
  | nil => rfl
  | cons call rest ih =>
      rw [freshFingerprints, List.map_append, ih]
      cases h : call.accepted? with
      | none =>
          rw [(respond_of_not_accepted isReady archive h).1, stored, stored,
            List.filterMap_cons_none h]
          rfl
      | some evaluation =>
          rw [respond_of_accepted isReady archive h, stored, stored, List.filterMap_cons_some h,
            List.map_cons, Archive.newKeys, key_of_accepted h]
          by_cases hthere : (archive.get? (.current evaluation.trace.fingerprint)).isSome = true
          · simp only [hthere, if_true, List.map_nil]
          · simp only [hthere, if_false, List.map_singleton, Bool.false_eq_true]

/-- The key of a stored evaluation is that of a fingerprint exactly if the evaluation has the fingerprint. -/
theorem of_eq_current_iff {calls : List Call} {evaluation : Evaluation}
    (h : evaluation ∈ calls.filterMap Call.accepted?) (fingerprint : String) :
    ArchiveKey.of evaluation = .current fingerprint ↔ evaluation.trace.fingerprint = fingerprint := by
  obtain ⟨call, _, haccepted⟩ := List.mem_filterMap.mp h
  rw [key_of_accepted haccepted, ArchiveKey.current, ArchiveKey.current, ArchiveKey.mk.injEq]
  exact and_iff_left rfl

/-- The last accepted evaluation with a fingerprint is what was stored under its key last. -/
theorem latest?_stored (calls : List Call) (fingerprint : String) :
    Archive.latest? (stored calls) (.current fingerprint) = lastAccepted? calls fingerprint := by
  have hsame : ∀ evaluation ∈ (calls.filterMap Call.accepted?).reverse,
      decide (ArchiveKey.of evaluation = .current fingerprint)
        = decide (evaluation.trace.fingerprint = fingerprint) := by
    intro evaluation hmem
    rw [decide_eq_decide]
    exact of_eq_current_iff (List.mem_reverse.mp hmem) fingerprint
  rw [Archive.latest?, stored, ← List.map_reverse, List.find?_map, Option.map_map, lastAccepted?,
    ← List.find?_congr hsame]
  exact Option.map_id'

/-- **The history decides what is there**: the fingerprints of the last fresh posts, as many as there is room
for. -/
theorem mem_arrivals_after (maxEntries : Nat) (calls : List Call) (fingerprint : String) :
    ArchiveKey.current fingerprint ∈ (after isReady (.empty maxEntries) calls).arrivals
      ↔ fingerprint ∈ (freshFingerprints isReady (.empty maxEntries) calls).rtake (max 1 maxEntries) := by
  have hinjective : Function.Injective ArchiveKey.current := by
    intro h h' heq
    exact (ArchiveKey.mk.inj heq).1
  rw [after_eq_keep, Archive.arrivals_keep, ← map_freshFingerprints isReady, List.rtake, List.rtake,
    List.length_map, ← List.map_drop, List.mem_map_of_injective hinjective]

/-- Who asks for a fingerprint that is there is answered with the last accepted post that has it. -/
theorem respond_of_resident (maxEntries : Nat) (calls : List Call) {question : Call} {fingerprint : String}
    (hasks : question.AsksFor fingerprint)
    (hresident : fingerprint ∈ (freshFingerprints isReady (.empty maxEntries) calls).rtake (max 1 maxEntries)) :
    ∃ evaluation, lastAccepted? calls fingerprint = some evaluation
      ∧ (respond isReady (after isReady (.empty maxEntries) calls) question).1
        = .json 200 (encode evaluation) := by
  rw [← mem_arrivals_after] at hresident
  have hsome := ((sound_after isReady maxEntries calls).isSome_get? (.current fingerprint)).mpr hresident
  obtain ⟨evaluation, hget⟩ := Option.isSome_iff_exists.mp hsome
  have hlatest : (after isReady (.empty maxEntries) calls).get? (.current fingerprint)
      = lastAccepted? calls fingerprint := by
    rw [after_eq_keep] at hresident ⊢
    rw [Archive.get?_keep maxEntries (stored calls) hresident, latest?_stored]
  refine ⟨evaluation, hlatest.symm.trans hget, ?_⟩
  rw [respond_of_asksFor isReady _ hasks, hget]

/-- Who asks for a fingerprint that is not there is told so. -/
theorem respond_of_not_resident (maxEntries : Nat) (calls : List Call) {question : Call}
    {fingerprint : String} (hasks : question.AsksFor fingerprint)
    (habsent : fingerprint ∉ (freshFingerprints isReady (.empty maxEntries) calls).rtake (max 1 maxEntries)) :
    (respond isReady (after isReady (.empty maxEntries) calls) question).1 = notFoundAnswer fingerprint := by
  rw [← mem_arrivals_after] at habsent
  rw [respond_of_asksFor isReady _ hasks, (sound_after isReady maxEntries calls).get?_eq_none habsent]

/-- The last accepted evaluation with a fingerprint has it, and was made under the ruleset of this library. -/
theorem lastAccepted?_spec {calls : List Call} {fingerprint : String} {evaluation : Evaluation}
    (h : lastAccepted? calls fingerprint = some evaluation) :
    evaluation.trace.fingerprint = fingerprint ∧ evaluation.trace.rulesetVersion = rulesetVersion := by
  rw [lastAccepted?] at h
  have hfingerprint := List.find?_some h
  have hmem := List.mem_reverse.mp (List.mem_of_find?_eq_some h)
  obtain ⟨call, _, haccepted⟩ := List.mem_filterMap.mp hmem
  exact ⟨of_decide_eq_true hfingerprint, rulesetVersion_of_accepted haccepted⟩

/-- A question and a call that is not answered with `200` store nothing. -/
theorem archive_unchanged (archive : Archive) {call : Call}
    (h : call.method = "GET" ∨ (respond isReady archive call).1.status ≠ 200) :
    (respond isReady archive call).2 = archive := by
  cases haccepted : call.accepted? with
  | none => exact (respond_of_not_accepted isReady archive haccepted).1
  | some evaluation =>
      have hanswer := respond_of_accepted isReady archive haccepted
      rcases h with hget | hstatus
      · rw [Call.accepted?, if_neg] at haccepted
        · exact absurd haccepted nofun
        · rintro ⟨⟨_, hpost⟩, _⟩
          exact absurd (hget.symm.trans hpost) (by decide)
      · exact absurd (congrArg (fun answer => answer.1.status) hanswer) hstatus

/-- A post is answered with `200` exactly if it is accepted. -/
theorem status_eq_iff_accepted (archive : Archive) {call : Call} (hpost : call.IsPost) :
    (respond isReady archive call).1.status = 200 ↔ call.accepted?.isSome = true := by
  cases haccepted : call.accepted? with
  | none =>
      have hstatus := (respond_of_not_accepted isReady archive haccepted).2 hpost
      exact iff_of_false hstatus nofun
  | some evaluation =>
      rw [respond_of_accepted isReady archive haccepted]
      exact iff_of_true rfl rfl

/-- **What the site answers after any history of calls**, started over an empty archive of any size. With the
fingerprints of the last fresh posts, as many as there is room for:

* who asks for one of these fingerprints is answered with the evaluation of the last accepted post that has
  it, made under the ruleset of this library; who asks for another one is told that there is none;
* a post is accepted exactly if it is answered with `200`, and then the answer is its own evaluation, and so is
  the answer to whoever asks for its fingerprint next;
* a question, and a call of whatever kind that is not answered with `200`, changes no later answer. -/
theorem answers_after_history (isReady : Bool) (maxEntries : Nat) (calls : List Call) :
    let archive := after isReady (.empty maxEntries) calls
    let resident := (freshFingerprints isReady (.empty maxEntries) calls).rtake (max 1 maxEntries)
    (∀ question fingerprint, question.AsksFor fingerprint →
      (fingerprint ∈ resident → ∃ evaluation, lastAccepted? calls fingerprint = some evaluation
        ∧ evaluation.trace.fingerprint = fingerprint
        ∧ evaluation.trace.rulesetVersion = rulesetVersion
        ∧ (respond isReady archive question).1 = .json 200 (encode evaluation))
      ∧ (fingerprint ∉ resident → (respond isReady archive question).1 = notFoundAnswer fingerprint
        ∧ (respond isReady archive question).1.status = 404))
    ∧ (∀ call : Call, call.IsPost →
      ((respond isReady archive call).1.status = 200 ↔ call.accepted?.isSome = true))
    ∧ (∀ call evaluation, call.accepted? = some evaluation →
      (respond isReady archive call).1 = .json 200 (encode evaluation)
      ∧ ∀ question : Call, question.AsksFor evaluation.trace.fingerprint →
        (respond isReady (after isReady archive [call]) question).1 = .json 200 (encode evaluation))
    ∧ ∀ call : Call, call.method = "GET" ∨ (respond isReady archive call).1.status ≠ 200 →
      ∀ later question, (respond isReady (after isReady archive (call :: later)) question).1
        = (respond isReady (after isReady archive later) question).1 := by
  dsimp only
  refine ⟨fun question fingerprint hasks => ⟨fun hresident => ?_, fun habsent => ?_⟩,
    fun _ => status_eq_iff_accepted isReady _, fun call evaluation haccepted => ⟨?_, fun question hasks => ?_⟩,
    fun call hcall later question => ?_⟩
  · obtain ⟨evaluation, hlast, hanswer⟩ :=
      respond_of_resident isReady maxEntries calls hasks hresident
    obtain ⟨hfingerprint, hruleset⟩ := lastAccepted?_spec hlast
    exact ⟨evaluation, hlast, hfingerprint, hruleset, hanswer⟩
  · rw [respond_of_not_resident isReady maxEntries calls hasks habsent]
    exact ⟨rfl, rfl⟩
  · rw [respond_of_accepted isReady _ haccepted]
  · rw [respond_of_asksFor isReady _ hasks, after_singleton isReady _ haccepted,
      ← key_of_accepted haccepted, (sound_after isReady maxEntries calls).get?_put_self]
  · rw [after_cons, archive_unchanged isReady _ hcall]

/-! ## Calls that are made -/

namespace Call

/-- The call that posts a request. -/
def post (request : Request) : Call :=
  ⟨"POST", "/api/v1/evaluations", some "application/json", (compact (encode request)).toUTF8⟩

/-- The call that asks for a fingerprint. -/
def lookUp (fingerprint : String) : Call :=
  ⟨"GET", lookupPath fingerprint, none, .empty⟩

theorem asksFor_lookUp (deal : Deal) : (lookUp deal.fingerprint).AsksFor deal.fingerprint := by
  obtain ⟨hroute, hsegment⟩ := route_and_segment_fingerprint deal
  exact ⟨rfl, _, hroute, hsegment⟩

/-- The body of a posted request has as many bytes as the characters of its text. -/
theorem size_post (request : Request) :
    (post request).body.size = String.utf8Len (compactChars (encode request)) := by
  rw [post, compact, String.toUTF8_eq_toByteArray, String.size_toByteArray, String.utf8ByteSize_ofList]

/-- A posted request is accepted if it is not too long, its deal is admitted and its numbers are read back. -/
theorem accepted?_post (request : Request) (hsize : (post request).body.size ≤ bodyLimit)
    (hnumbers : request.deal.NumbersReadBack)
    (hvet : (request.deal.vet request.options.timestamp).isOk = true) :
    (post request).accepted? = some (request.deal.evaluate request.options.timestamp) := by
  have hroute : Route.ofPath? (pathOf "/api/v1/evaluations") = some .evaluations := by decide +kernel
  have hjson : announcesJson "application/json" = true := by decide +kernel
  have hread : decodeStart (decode : Decoder Request) (post request).body = .ok request := by
    rw [post, decodeStart_compact]
    exact readsBack_request hnumbers.readsBack _ (Rearranged.refl _) _
  rw [accepted?, if_pos ⟨⟨hroute, rfl⟩, hjson, hsize⟩, hread]
  simp only
  cases hadmitted : request.deal.vet request.options.timestamp with
  | error refusal =>
      rw [hadmitted] at hvet
      exact absurd hvet Bool.false_ne_true
  | ok _ => rfl

end Call

theorem numbersReadBack_dentedRefrigerator : Sample.dentedRefrigerator.deal.NumbersReadBack :=
  ⟨by decide +kernel, by decide +kernel, by decide +kernel, rfl, rfl, rfl⟩

theorem size_post_dentedRefrigerator :
    ∀ timestamp ∈ ["2024-05-01T09:00:00Z", "2024-05-02T09:00:00Z"],
      (Call.post ⟨Sample.dentedRefrigerator.deal, ⟨timestamp⟩⟩).body.size ≤ bodyLimit := by
  simp only [Call.size_post]
  decide +kernel

/-- Two accepted posts with one fingerprint: the first one is fresh and the second one is the last. -/
theorem history_of_two {first second : Call} {deal : Deal} {timestamp timestamp' : String} (maxEntries : Nat)
    (hfirst : first.accepted? = some (deal.evaluate timestamp))
    (hsecond : second.accepted? = some (deal.evaluate timestamp')) :
    freshFingerprints isReady (.empty maxEntries) [first, second] = [deal.fingerprint]
      ∧ lastAccepted? [first, second] deal.fingerprint = some (deal.evaluate timestamp') := by
  constructor
  · have hempty : (Archive.empty maxEntries).get? (.current deal.fingerprint) = none :=
      (Archive.sound_empty maxEntries).get?_eq_none List.not_mem_nil
    have hthere : ((Archive.empty maxEntries).put (.of (deal.evaluate timestamp))
        (deal.evaluate timestamp)).2.get? (.current deal.fingerprint) = some (deal.evaluate timestamp) := by
      rw [← deal.fingerprint_trace_evaluate timestamp, ← key_of_accepted hfirst]
      exact (Archive.sound_empty maxEntries).get?_put_self _ _
    simp [freshFingerprints, hfirst, hsecond, respond_of_accepted isReady _ hfirst,
      Deal.fingerprint_trace_evaluate, hempty, hthere]
  · simp [lastAccepted?, hfirst, hsecond, Deal.fingerprint_trace_evaluate]

/-- In a site with room for one evaluation the same deal is posted twice, under two timestamps. The second
evaluation is the one that is kept, and nothing is kept under a name that is no fingerprint. -/
theorem second_post_replaces_first :
    let deal := Sample.dentedRefrigerator.deal
    let site := after true (.empty 0)
      [.post ⟨deal, ⟨"2024-05-01T09:00:00Z"⟩⟩, .post ⟨deal, ⟨"2024-05-02T09:00:00Z"⟩⟩]
    (Call.lookUp deal.fingerprint).AsksFor deal.fingerprint
      ∧ (Call.lookUp "none").AsksFor "none"
      ∧ (respond true site (.lookUp deal.fingerprint)).1
        = .json 200 (encode (deal.evaluate "2024-05-02T09:00:00Z"))
      ∧ (respond true site (.lookUp "none")).1.status = 404 := by
  intro deal site
  have hfirst := Call.accepted?_post ⟨deal, ⟨"2024-05-01T09:00:00Z"⟩⟩
    (size_post_dentedRefrigerator _ List.mem_cons_self)
    numbersReadBack_dentedRefrigerator (by decide +kernel)
  have hsecond := Call.accepted?_post ⟨deal, ⟨"2024-05-02T09:00:00Z"⟩⟩
    (size_post_dentedRefrigerator _ (List.mem_cons_of_mem _ List.mem_cons_self))
    numbersReadBack_dentedRefrigerator (by decide +kernel)
  obtain ⟨hfresh, hlast⟩ := history_of_two true 0 hfirst hsecond
  have hasks : (Call.lookUp deal.fingerprint).AsksFor deal.fingerprint := Call.asksFor_lookUp deal
  have hnone : (Call.lookUp "none").AsksFor "none" :=
    ⟨rfl, "none", by decide +kernel, by decide +kernel⟩
  obtain ⟨hquestions, _⟩ := answers_after_history true 0
    [.post ⟨deal, ⟨"2024-05-01T09:00:00Z"⟩⟩, .post ⟨deal, ⟨"2024-05-02T09:00:00Z"⟩⟩]
  refine ⟨hasks, hnone, ?_, ?_⟩
  · obtain ⟨evaluation, hevaluation, _, _, hanswer⟩ :=
      (hquestions _ _ hasks).1 (by rw [hfresh]; exact List.mem_singleton_self _)
    rw [hlast] at hevaluation
    rw [hanswer, ← Option.some.inj hevaluation]
  · refine ((hquestions _ _ hnone).2 ?_).2
    rw [hfresh]
    intro hmem
    have hlength := congrArg (fun text => text.toList.length) (List.mem_singleton.mp hmem)
    rw [Deal.fingerprint, toList_hex] at hlength
    simp at hlength

end Appraisal.Web
