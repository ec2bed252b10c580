/-
The archive as a shelf with a limited number of places.

A shelf is the archive as somebody would describe it: a row of evaluations under their keys, the oldest in front.
An evaluation whose key is there is replaced where it stands. Any other one is put at the back, and if all places
were taken, the front one goes. There is one list and nothing that could get out of step.

The archive keeps a table and a queue instead, because looking up has to be quick. Used in whatever way, it gives
the same replies as a shelf with as many places (`Mirrors.run`), so that everything one would expect of the shelf
is true of the archive. What the archive does to get there, its loop of giving up entries, is looked at apart: it
gives up one entry at most and never runs out of arrivals (`makingRoom_put`).
-/
import Mathlib.Data.List.Nodup
import Appraisal.Proofs.Archive

set_option autoImplicit false

namespace Appraisal

open Archive (Item)

/-! ## Shelves -/

/-- Evaluations under their keys, in the order in which the keys came in. -/
structure Shelf where
  capacity : Nat
  items : List Item

namespace Shelf

/-- A shelf with nothing on it. -/
def empty (capacity : Nat) : Shelf :=
  ⟨capacity, []⟩

/-- The keys on a shelf, the oldest first. -/
def keys (shelf : Shelf) : List ArchiveKey :=
  shelf.items.map Prod.fst

/-- The evaluation under a key. -/
def get? (shelf : Shelf) (key : ArchiveKey) : Option Evaluation :=
  (shelf.items.find? fun item => item.1 = key).map Prod.snd

/-- Puts an evaluation on the shelf, and says whether it replaced another one. -/
def put (shelf : Shelf) (key : ArchiveKey) (evaluation : Evaluation) : Bool × Shelf :=
  if key ∈ shelf.keys then
    (true, { shelf with
      items := shelf.items.map fun item => if item.1 = key then (key, evaluation) else item })
  else if shelf.items.length < shelf.capacity then
    (false, { shelf with items := shelf.items ++ [(key, evaluation)] })
  else
    (false, { shelf with items := shelf.items.tail ++ [(key, evaluation)] })

/-- With no key twice, looking up finds exactly what is there. -/
theorem get?_eq_some_iff {shelf : Shelf} (hnodup : shelf.keys.Nodup) {key : ArchiveKey}
    {evaluation : Evaluation} : shelf.get? key = some evaluation ↔ (key, evaluation) ∈ shelf.items := by
  rw [get?, Option.map_eq_some_iff]
  constructor
  · rintro ⟨item, hfind, rfl⟩
    obtain rfl : item.1 = key := by simpa using List.find?_some hfind
    exact List.mem_of_find?_eq_some hfind
  · intro hmem
    cases hfind : shelf.items.find? fun item => item.1 = key with
    | none => exact absurd (List.find?_eq_none.mp hfind _ hmem) (by simp)
    | some item =>
        have hkey : item.1 = key := by simpa using List.find?_some hfind
        have hsame : item = (key, evaluation) :=
          List.inj_on_of_nodup_map hnodup (List.mem_of_find?_eq_some hfind) hmem hkey
        exact ⟨item, rfl, by rw [hsame]⟩

section Put

variable {shelf : Shelf} (key : ArchiveKey) (evaluation : Evaluation)

@[simp] theorem capacity_put : (shelf.put key evaluation).2.capacity = shelf.capacity := by
  rw [put]
  split_ifs <;> rfl

theorem replaced_put : (shelf.put key evaluation).1 = true ↔ key ∈ shelf.keys := by
  rw [put]
  split_ifs with hkey <;> simp [hkey]

/-- The keys stay if the key was there; otherwise the key comes last, and the places that there are hold the
last of them. -/
theorem keys_put (hlength : shelf.items.length ≤ shelf.capacity) (hpos : 0 < shelf.capacity) :
    (shelf.put key evaluation).2.keys
      = if key ∈ shelf.keys then shelf.keys else (shelf.keys ++ [key]).rtake shelf.capacity := by
  have hkeys : shelf.keys.length = shelf.items.length := List.length_map ..
  rw [Archive.rtake_concat (by omega) hpos, put]
  split_ifs with hkey hroom hfewer hfewer
  · -- a replaced item keeps its key
    simp only [keys, List.map_map]
    apply List.map_congr_left
    intro item _
    dsimp only [Function.comp_apply]
    split_ifs with hsame
    · exact hsame.symm
    · rfl
  · simp [keys]
  · omega
  · omega
  · simp [keys]

/-- What is on the shelf afterwards is the new evaluation, and what was there under the other keys that stayed. -/
theorem mem_items_put (hnodup : shelf.keys.Nodup) {other : ArchiveKey} {value : Evaluation} :
    (other, value) ∈ (shelf.put key evaluation).2.items
      ↔ (other = key ∧ value = evaluation)
        ∨ (other ≠ key ∧ other ∈ (shelf.put key evaluation).2.keys ∧ (other, value) ∈ shelf.items) := by
  rw [put]
  split_ifs with hkey hroom
  · -- replaced: every item keeps its key, and those under another key stay as they are
    simp only [keys, List.mem_map]
    constructor
    · rintro ⟨item, hitem, hsame⟩
      by_cases heq : item.1 = key
      · rw [if_pos heq, Prod.mk.injEq] at hsame
        exact Or.inl ⟨hsame.1.symm, hsame.2.symm⟩
      · rw [if_neg heq] at hsame
        subst hsame
        exact Or.inr ⟨heq, ⟨_, ⟨_, hitem, if_neg heq⟩, rfl⟩, hitem⟩
    · rintro (⟨rfl, rfl⟩ | ⟨hne, _, hitem⟩)
      · obtain ⟨item, hitem, hfst⟩ := List.mem_map.mp hkey
        exact ⟨item, hitem, if_pos hfst⟩
      · exact ⟨_, hitem, if_neg hne⟩
  · -- put at the back: all others stay
    simp only [keys, List.map_append, List.mem_append, List.map_singleton, List.mem_singleton,
      Prod.mk.injEq]
    constructor
    · rintro (hitem | hnew)
      · have hthere : other ∈ shelf.keys := List.mem_map_of_mem hitem
        exact Or.inr ⟨fun heq => hkey (heq ▸ hthere), Or.inl hthere, hitem⟩
      · exact Or.inl hnew
    · rintro (hnew | ⟨_, _, hitem⟩)
      · exact Or.inr hnew
      · exact Or.inl hitem
  · -- the front one goes: what has its key still there cannot have been the front one
    simp only [keys, List.map_append, List.mem_append, List.map_singleton, List.mem_singleton,
      Prod.mk.injEq]
    constructor
    · rintro (hitem | hnew)
      · have hbefore : (other, value) ∈ shelf.items := List.mem_of_mem_tail hitem
        have hthere : other ∈ shelf.keys := List.mem_map_of_mem hbefore
        exact Or.inr ⟨fun heq => hkey (heq ▸ hthere), Or.inl (List.mem_map_of_mem hitem), hbefore⟩
      · exact Or.inl hnew
    · rintro (hnew | ⟨hne, hthere | heq, hitem⟩)
      · exact Or.inr hnew
      · obtain ⟨item, hstays, hfst⟩ := List.mem_map.mp hthere
        have hsame : item = (other, value) :=
          List.inj_on_of_nodup_map hnodup (List.mem_of_mem_tail hstays) hitem hfst
        exact Or.inl (hsame ▸ hstays)
      · exact absurd heq hne

end Put

end Shelf

/-! ## Uses and replies -/

/-- A use of an archive, or of a shelf. -/
inductive Use where
  | put (key : ArchiveKey) (evaluation : Evaluation)
  | get (key : ArchiveKey)

/-- What is replied to a use: whether something was replaced, or what was found. -/
inductive Reply where
  | stored (replaced : Bool)
  | found (evaluation : Option Evaluation)

/-- One use of an archive. -/
def Archive.use (archive : Archive) : Use → Reply × Archive
  | .put key evaluation => (.stored (archive.put key evaluation).1, (archive.put key evaluation).2)
  | .get key => (.found (archive.get? key), archive)

/-- One use of a shelf. -/
def Shelf.use (shelf : Shelf) : Use → Reply × Shelf
  | .put key evaluation => (.stored (shelf.put key evaluation).1, (shelf.put key evaluation).2)
  | .get key => (.found (shelf.get? key), shelf)

/-- One use after the other, with all replies. -/
def Use.run {σ : Type} (step : σ → Use → Reply × σ) (start : σ) : List Use → List Reply × σ
  | [] => ([], start)
  | use :: rest =>
    let done := step start use
    let later := Use.run step done.2 rest
    (done.1 :: later.1, later.2)

/-- What a use stores. -/
def Use.stored? : Use → Option Item
  | .put key evaluation => some (key, evaluation)
  | .get _ => none

/-- Looking up changes nothing, so what an archive comes to depends on what was stored in it. -/
theorem Archive.run_use (archive : Archive) (uses : List Use) :
    (Use.run Archive.use archive uses).2 = archive.keep (uses.filterMap Use.stored?) := by
  induction uses generalizing archive with
  | nil => rfl
  | cons use rest ih =>
      cases use with
      | put key evaluation => exact ih (archive.put key evaluation).2
      | get key => exact ih archive

/-! ## An archive mirrors a shelf -/

/-- The archive has the places and the keys of the shelf, in the same order, and the same evaluations. -/
structure Mirrors (archive : Archive) (shelf : Shelf) : Prop where
  capacity_eq : archive.capacity = shelf.capacity
  arrivals_eq : archive.arrivals = shelf.keys
  get?_eq_some_iff : ∀ key evaluation,
    archive.get? key = some evaluation ↔ (key, evaluation) ∈ shelf.items

namespace Mirrors

variable {archive : Archive} {shelf : Shelf}

theorem empty (maxEntries : Nat) : Mirrors (.empty maxEntries) (.empty (max 1 maxEntries)) where
  capacity_eq := rfl
  arrivals_eq := rfl
  get?_eq_some_iff := by simp [Archive.empty, Archive.get?, Shelf.empty]

/-- Looking up finds the same. -/
theorem get?_eq (h : Mirrors archive shelf) (hsound : archive.Sound) (key : ArchiveKey) :
    archive.get? key = shelf.get? key := by
  have hnodup : shelf.keys.Nodup := h.arrivals_eq ▸ hsound.nodup
  ext evaluation
  rw [h.get?_eq_some_iff, Shelf.get?_eq_some_iff hnodup]

/-- **A store is the same to both**: it gives the same reply and leaves an archive that mirrors the shelf. -/
theorem put (h : Mirrors archive shelf) (hsound : archive.Sound) (key : ArchiveKey)
    (evaluation : Evaluation) :
    (archive.put key evaluation).1 = (shelf.put key evaluation).1
      ∧ Mirrors (archive.put key evaluation).2 (shelf.put key evaluation).2 := by
  -- the shelf has no key twice and is not overfull, because the archive that mirrors it is sound
  have hnodup : shelf.keys.Nodup := h.arrivals_eq ▸ hsound.nodup
  have hlength : shelf.items.length ≤ shelf.capacity := by
    have hle := hsound.length_le
    rw [h.arrivals_eq, h.capacity_eq, Shelf.keys, List.length_map] at hle
    exact hle
  have hpos : 0 < shelf.capacity := h.capacity_eq ▸ hsound.capacity_pos
  obtain ⟨hcapacity, harrivals, _⟩ := hsound.put_spec key evaluation
  have hkeys : (archive.put key evaluation).2.arrivals = (shelf.put key evaluation).2.keys := by
    rw [harrivals, Shelf.keys_put key evaluation hlength hpos, h.arrivals_eq, h.capacity_eq]
  constructor
  · rw [Bool.eq_iff_iff, hsound.replaced_put, Shelf.replaced_put, h.arrivals_eq]
  · refine ⟨?_, hkeys, ?_⟩
    · rw [hcapacity, Shelf.capacity_put, h.capacity_eq]
    · -- with the same keys left, what is under them is either the new evaluation or what was there before
      intro other value
      rw [hsound.get?_put, hkeys, Shelf.mem_items_put key evaluation hnodup, ← h.get?_eq_some_iff]
      by_cases hsame : other = key
      · simp [hsame, eq_comm]
      · simp [hsame]

/-- **One use.** -/
theorem use (h : Mirrors archive shelf) (hsound : archive.Sound) (use : Use) :
    (archive.use use).1 = (shelf.use use).1 ∧ (archive.use use).2.Sound
      ∧ Mirrors (archive.use use).2 (shelf.use use).2 := by
  cases use with
  | put key evaluation =>
      obtain ⟨hreply, hmirrors⟩ := h.put hsound key evaluation
      exact ⟨congrArg Reply.stored hreply, hsound.put key evaluation, hmirrors⟩
  | get key => exact ⟨congrArg Reply.found (h.get?_eq hsound key), hsound, h⟩

/-- **All uses**, by induction on them: the replies are the same one by one, and the archive mirrors the shelf
in the end. -/
theorem run (h : Mirrors archive shelf) (hsound : archive.Sound) (uses : List Use) :
    (Use.run Archive.use archive uses).1 = (Use.run Shelf.use shelf uses).1
      ∧ (Use.run Archive.use archive uses).2.Sound
      ∧ Mirrors (Use.run Archive.use archive uses).2 (Use.run Shelf.use shelf uses).2 := by
  induction uses generalizing archive shelf with
  | nil => exact ⟨rfl, hsound, h⟩
  | cons use rest ih =>
      obtain ⟨hreply, hsound', hmirrors⟩ := h.use hsound use
      obtain ⟨hreplies, hlast⟩ := ih hmirrors hsound'
      exact ⟨congrArg₂ List.cons hreply hreplies, hlast⟩

end Mirrors

/-! ## Making room, round by round -/

namespace Archive

variable {archive : Archive}

/-- The rounds of making room: from a table and the arrivals, over the keys that are given up one after the
other, to the archive that is left. There is no rule for a table that is too large when no arrivals are left. -/
inductive MakingRoom (capacity : Nat) :
    Std.HashMap ArchiveKey Evaluation → List ArchiveKey → List ArchiveKey → Archive → Prop where
  | enough {entries arrivals} (hroom : entries.size ≤ capacity) :
      MakingRoom capacity entries arrivals [] ⟨capacity, entries, arrivals⟩
  | giveUp {entries oldest rest givenUp after} (hroom : capacity < entries.size)
      (later : MakingRoom capacity (entries.erase oldest) rest givenUp after) :
      MakingRoom capacity entries (oldest :: rest) (oldest :: givenUp) after

namespace MakingRoom

variable {capacity : Nat} {entries : Std.HashMap ArchiveKey Evaluation} {arrivals givenUp : List ArchiveKey}
  {after : Archive}

/-- The rounds end where `shrink` does. -/
theorem shrink_eq (h : MakingRoom capacity entries arrivals givenUp after) :
    shrink capacity entries arrivals = after := by
  induction h with
  | @enough entries arrivals hroom =>
      cases arrivals with
      | nil => rfl
      | cons oldest rest => rw [shrink, if_pos hroom]
  | giveUp hroom _ ih => rw [shrink, if_neg (Nat.not_le.mpr hroom), ih]

/-- The size of the table settles every round, so the keys that are given up are always the same. -/
theorem givenUp_unique {others : List ArchiveKey} {after' : Archive}
    (h : MakingRoom capacity entries arrivals givenUp after)
    (h' : MakingRoom capacity entries arrivals others after') : givenUp = others := by
  induction h generalizing others with
  | enough hroom =>
      cases h' with
      | enough => rfl
      | giveUp hover => exact absurd hroom (Nat.not_le.mpr hover)
  | giveUp hover _ ih =>
      cases h' with
      | enough hroom => exact absurd hroom (Nat.not_le.mpr hover)
      | giveUp _ later => exact congrArg _ (ih later)

end MakingRoom

/-- **The loop after a store under a new key.** It gives up nothing as long as there is a place, and the front
key when all places were taken; then it ends. -/
theorem makingRoom_put (h : archive.Sound) {key : ArchiveKey} (evaluation : Evaluation)
    (hkey : key ∉ archive.arrivals) :
    MakingRoom archive.capacity (archive.entries.insert key evaluation) (archive.arrivals ++ [key])
      (if archive.arrivals.length < archive.capacity then [] else archive.arrivals.take 1)
      (archive.put key evaluation).2 := by
  have hsize : (archive.entries.insert key evaluation).size = archive.arrivals.length + 1 := by
    have habsent : key ∉ archive.entries := fun hin => hkey ((h.mem_entries key).mp hin)
    rw [Std.HashMap.size_insert, if_neg habsent, h.size_eq]
  -- the table has one key more than before, and before there were no more than there is room for
  have hle := h.length_le
  have hpos := h.capacity_pos
  rw [h.put_fresh key evaluation hkey]
  split_ifs with hroom
  · have henough : (archive.entries.insert key evaluation).size ≤ archive.capacity := by omega
    have hrounds : MakingRoom archive.capacity (archive.entries.insert key evaluation)
        (archive.arrivals ++ [key]) [] _ := .enough henough
    rw [hrounds.shrink_eq]
    exact hrounds
  · -- all places were taken, so there is a front key, and it is in the table
    cases harrivals : archive.arrivals with
    | nil => rw [harrivals, List.length_nil] at hroom; omega
    | cons oldest rest =>
        have hthere : oldest ∈ archive.entries.insert key evaluation := by
          rw [Std.HashMap.mem_insert, h.mem_entries, harrivals]
          exact Or.inr List.mem_cons_self
        have hover : archive.capacity < (archive.entries.insert key evaluation).size := by omega
        have henough : ((archive.entries.insert key evaluation).erase oldest).size ≤ archive.capacity := by
          rw [Std.HashMap.size_erase, if_pos hthere]
          omega
        have hrounds : MakingRoom archive.capacity (archive.entries.insert key evaluation)
            (oldest :: (rest ++ [key])) [oldest] _ := .giveUp hover (.enough henough)
        rw [List.cons_append, hrounds.shrink_eq]
        exact hrounds

/-! ## What a store does to a sound archive -/

/-- What one store does, in the words of somebody who looks at the arrivals and looks keys up. -/
structure StoreOutcome (archive : Archive) (key : ArchiveKey) (evaluation : Evaluation) (replaced : Bool)
    (after : Archive) : Prop where
  /-- The reply says whether the key was there. -/
  replaced_iff : replaced = true ↔ key ∈ archive.arrivals
  /-- If it was, everything stays but its value. -/
  of_resident : key ∈ archive.arrivals →
    after.arrivals = archive.arrivals ∧ after.entries.size = archive.entries.size
      ∧ ∀ other ≠ key, after.get? other = archive.get? other
  /-- If it was not, the key comes last, and the front key goes when all places were taken. -/
  of_fresh : key ∉ archive.arrivals →
    after.arrivals
        = (if archive.arrivals.length < archive.capacity then archive.arrivals else archive.arrivals.tail)
          ++ [key]
      ∧ ∀ other ≠ key, after.get? other
          = if other ∈ after.arrivals then archive.get? other else none
  /-- The loop that makes room has no other run than one that gives up this front key. -/
  makingRoom_iff : key ∉ archive.arrivals → ∀ givenUp last,
    MakingRoom archive.capacity (archive.entries.insert key evaluation) (archive.arrivals ++ [key])
        givenUp last
      ↔ givenUp = (if archive.arrivals.length < archive.capacity then [] else archive.arrivals.take 1)
        ∧ last = after
  /-- What was just stored is there. -/
  resident : key ∈ after.arrivals ∧ after.get? key = some evaluation

theorem Sound.storeOutcome (h : archive.Sound) (key : ArchiveKey) (evaluation : Evaluation) :
    StoreOutcome archive key evaluation (archive.put key evaluation).1 (archive.put key evaluation).2 where
  replaced_iff := h.replaced_put key evaluation
  of_resident hkey := by
    obtain ⟨_, harrivals, _, hsize, _⟩ := h.put_spec key evaluation
    rw [if_pos hkey] at harrivals
    refine ⟨harrivals, ?_, ?_⟩
    · rw [hsize, harrivals, h.size_eq]
    · intro other hne
      rw [h.get?_put, if_neg hne, harrivals]
      split_ifs with hthere
      · rfl
      · exact (h.get?_eq_none hthere).symm
  of_fresh hkey := by
    obtain ⟨_, harrivals, _⟩ := h.put_spec key evaluation
    constructor
    · rw [harrivals, if_neg hkey, rtake_concat h.length_le h.capacity_pos]
    · intro other hne
      rw [h.get?_put, if_neg hne]
  makingRoom_iff hkey givenUp last := by
    have hrounds := makingRoom_put h evaluation hkey
    constructor
    · intro hothers
      exact ⟨hothers.givenUp_unique hrounds, hothers.shrink_eq.symm.trans hrounds.shrink_eq⟩
    · rintro ⟨rfl, rfl⟩
      exact hrounds
  resident := by
    have hget := h.get?_put_self key evaluation
    exact ⟨((h.put key evaluation).isSome_get? key).mp (by rw [hget]; rfl), hget⟩

/-- **An archive is a shelf.** Whatever number of entries is asked for, and however it is used, an archive that
was empty gives the same replies as a shelf with that many places, and with one place if none were asked for.
Its arrivals list every key of the table once, at most as many as there are places; what is looked up is what
was stored last under a key that is there; and every further store does what `StoreOutcome` says. -/
theorem run_eq_shelf (maxEntries : Nat) (uses : List Use) :
    let archive := (Use.run Archive.use (.empty maxEntries) uses).2
    ((Use.run Archive.use (.empty maxEntries) uses).1
        = (Use.run Shelf.use (.empty (max 1 maxEntries)) uses).1
      ∧ Mirrors archive (Use.run Shelf.use (.empty (max 1 maxEntries)) uses).2)
    ∧ (archive.arrivals.Nodup
      ∧ (∀ key, key ∈ archive.entries ↔ key ∈ archive.arrivals)
      ∧ archive.entries.size = archive.arrivals.length
      ∧ archive.capacity = max 1 maxEntries
      ∧ archive.arrivals.length ≤ max 1 maxEntries)
    ∧ (∀ key, archive.get? key
        = if key ∈ archive.arrivals then latest? (uses.filterMap Use.stored?) key else none)
    ∧ ∀ key evaluation, StoreOutcome archive key evaluation
        (archive.put key evaluation).1 (archive.put key evaluation).2 := by
  intro archive
  obtain ⟨hreplies, hsound, hmirrors⟩ := (Mirrors.empty maxEntries).run (sound_empty maxEntries) uses
  have hkept : archive = (Archive.empty maxEntries).keep (uses.filterMap Use.stored?) := run_use _ uses
  have hcapacity : archive.capacity = max 1 maxEntries := by
    rw [hkept, (sound_empty maxEntries).capacity_keep]
    rfl
  refine ⟨⟨hreplies, hmirrors⟩, ?_, ?_, hsound.storeOutcome⟩
  · exact ⟨hsound.nodup, hsound.mem_entries, hsound.size_eq, hcapacity, hcapacity ▸ hsound.length_le⟩
  · intro key
    split_ifs with hkey
    · rw [hkept] at hkey ⊢
      exact get?_keep maxEntries _ hkey
    · exact hsound.get?_eq_none hkey

end Archive
end Appraisal
