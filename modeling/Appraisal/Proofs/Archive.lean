/-
What an archive holds after any run of stores.

An archive keeps its evaluations in a table and, beside it, the order in which their keys came in. The two
have to agree, or the wrong evaluation goes when room is needed: that is `Sound`, and every store keeps it.

Under that condition each operation has a short description in terms of the arrivals alone. A store under a
key that is there changes one value. A store under a new key adds it behind the others and keeps as many of
the newest as there is room for. Read over a whole run from an empty archive, the keys that are there are the
last ones that came in as new (`arrivals_keep`), and each of them holds what was stored under it last
(`get?_keep`).
-/
import Mathlib.Data.List.DropRight
import Mathlib.Data.List.Nodup
import Appraisal.Archive

set_option autoImplicit false

namespace Appraisal.Archive

/-! ## Sound archives -/

/-- The arrivals list every key of the table once, and there is room for all of them. -/
structure Sound (archive : Archive) : Prop where
  nodup : archive.arrivals.Nodup
  mem_entries : ∀ key, key ∈ archive.entries ↔ key ∈ archive.arrivals
  size_eq : archive.entries.size = archive.arrivals.length
  length_le : archive.arrivals.length ≤ archive.capacity
  capacity_pos : 0 < archive.capacity

theorem sound_empty (maxEntries : Nat) : (empty maxEntries).Sound where
  nodup := List.nodup_nil
  mem_entries := by simp [empty]
  size_eq := by simp [empty]
  length_le := Nat.zero_le _
  capacity_pos := Nat.le_max_left 1 maxEntries

variable {archive : Archive}

/-- What can be looked up are the keys that arrived. -/
theorem Sound.isSome_get? (h : archive.Sound) (key : ArchiveKey) :
    (archive.get? key).isSome = true ↔ key ∈ archive.arrivals := by
  rw [get?, Std.HashMap.isSome_getElem?_iff_mem, h.mem_entries]

theorem Sound.get?_eq_none (h : archive.Sound) {key : ArchiveKey} (hkey : key ∉ archive.arrivals) :
    archive.get? key = none := by
  rw [← h.isSome_get?, Option.not_isSome_iff_eq_none] at hkey
  exact hkey

/-! ## Making room -/

/-- **Making room keeps the newest.** From a table and arrivals that agree, as many of the last arrivals stay
as there is room for, and what stays keeps its value. The induction is on the arrivals: giving up the oldest
one leaves a table and arrivals that agree again. -/
theorem shrink_spec (capacity : Nat) (arrivals : List ArchiveKey)
    (entries : Std.HashMap ArchiveKey Evaluation) (hnodup : arrivals.Nodup)
    (hmem : ∀ key, key ∈ entries ↔ key ∈ arrivals) (hsize : entries.size = arrivals.length) :
    let shrunk := shrink capacity entries arrivals
    shrunk.capacity = capacity
      ∧ shrunk.arrivals = arrivals.rtake capacity
      ∧ (∀ key, key ∈ shrunk.entries ↔ key ∈ shrunk.arrivals)
      ∧ shrunk.entries.size = shrunk.arrivals.length
      ∧ ∀ key ∈ shrunk.arrivals, shrunk.get? key = entries[key]? := by
  induction arrivals generalizing entries with
  | nil => exact ⟨rfl, by simp [shrink], hmem, hsize, fun _ _ => rfl⟩
  | cons oldest rest ih =>
      by_cases hroom : entries.size ≤ capacity
      · have hall : (oldest :: rest).rtake capacity = oldest :: rest := by
          rw [List.rtake, Nat.sub_eq_zero_of_le (hsize ▸ hroom), List.drop_zero]
        rw [shrink, if_pos hroom, hall]
        exact ⟨rfl, rfl, hmem, hsize, fun _ _ => rfl⟩
      · obtain ⟨hfirst, hrest⟩ := List.nodup_cons.mp hnodup
        -- there are too many, so the oldest goes, and the rest agrees with what is left of the table
        have hpopped : (oldest :: rest).rtake capacity = rest.rtake capacity := by
          rw [hsize, List.length_cons] at hroom
          rw [List.rtake, List.rtake, List.length_cons,
            show rest.length + 1 - capacity = rest.length - capacity + 1 by omega, List.drop_succ_cons]
        have hmem' : ∀ key, key ∈ entries.erase oldest ↔ key ∈ rest := by
          intro key
          rw [Std.HashMap.mem_erase, hmem, List.mem_cons, beq_eq_false_iff_ne]
          constructor
          · rintro ⟨hne, rfl | hkey⟩
            · exact absurd rfl hne
            · exact hkey
          · intro hkey
            exact ⟨fun heq => hfirst (heq ▸ hkey), Or.inr hkey⟩
        have hsize' : (entries.erase oldest).size = rest.length := by
          have hoccurs : oldest ∈ entries := (hmem oldest).mpr List.mem_cons_self
          rw [Std.HashMap.size_erase, if_pos hoccurs, hsize, List.length_cons, Nat.add_sub_cancel]
        obtain ⟨hcapacity, harrivals, hagree, hcount, hget⟩ :=
          ih (entries.erase oldest) hrest hmem' hsize'
        rw [shrink, if_neg hroom, hpopped]
        refine ⟨hcapacity, harrivals, hagree, hcount, ?_⟩
        intro key hkey
        -- what stays is among the rest, so giving up the oldest did not touch its value
        have hne : (oldest == key) = false := by
          have hin : key ∈ rest := List.mem_of_mem_drop (harrivals ▸ hkey)
          rw [beq_eq_false_iff_ne]
          exact fun heq => hfirst (heq ▸ hin)
        rw [hget key hkey, Std.HashMap.getElem?_erase, hne]
        rfl

/-! ## One store -/

/-- The last `n` of a list and one more are all of them as long as there are fewer, and otherwise the front one
is left out. -/
theorem rtake_concat {α : Type} {old : List α} {n : Nat} (hle : old.length ≤ n) (hpos : 0 < n) (new : α) :
    (old ++ [new]).rtake n = (if old.length < n then old else old.tail) ++ [new] := by
  rw [List.rtake, List.length_append, List.length_singleton]
  split_ifs with hroom
  · rw [Nat.sub_eq_zero_of_le hroom, List.drop_zero]
  · have hone : old.length + 1 - n = 1 := by omega
    rw [hone, List.drop_append_of_le_length (by omega), List.drop_one]

theorem getElem?_insert (archive : Archive) (key : ArchiveKey) (evaluation : Evaluation) (other : ArchiveKey) :
    (archive.entries.insert key evaluation)[other]?
      = if key = other then some evaluation else archive.get? other := by
  rw [Std.HashMap.getElem?_insert, Archive.get?]
  simp only [beq_iff_eq]

namespace Sound

variable (h : archive.Sound) (key : ArchiveKey) (evaluation : Evaluation)

include h

/-- A store tells whether the key was there. -/
theorem replaced_put : (archive.put key evaluation).1 = true ↔ key ∈ archive.arrivals := by
  rw [← h.mem_entries, ← Std.HashMap.contains_iff_mem, Archive.put]
  split_ifs with hkey <;> simp [hkey]

/-- What a store leaves behind when the key was there: one value is another, and the order stays. -/
theorem put_resident (hkey : key ∈ archive.arrivals) :
    (archive.put key evaluation).2
      = { archive with entries := archive.entries.insert key evaluation } := by
  have hcontains : archive.entries.contains key = true := by
    rw [Std.HashMap.contains_iff_mem, h.mem_entries]
    exact hkey
  rw [Archive.put, if_pos hcontains]

/-- What a store leaves behind when the key is new: the key comes last, and room may have to be made. -/
theorem put_fresh (hkey : key ∉ archive.arrivals) :
    (archive.put key evaluation).2
      = shrink archive.capacity (archive.entries.insert key evaluation) (archive.arrivals ++ [key]) := by
  have hcontains : ¬ archive.entries.contains key = true := by
    rw [Std.HashMap.contains_iff_mem, h.mem_entries]
    exact hkey
  rw [Archive.put, if_neg hcontains]

/-- **One store.** The arrivals stay if the key was there; otherwise they are the newest of the old ones and
the key, as many as there is room for. They agree with the table again. Of what is there afterwards the key
has the new value, and every other key the value that it had. -/
theorem put_spec :
    let after := (archive.put key evaluation).2
    after.capacity = archive.capacity
      ∧ after.arrivals = (if key ∈ archive.arrivals then archive.arrivals
          else (archive.arrivals ++ [key]).rtake archive.capacity)
      ∧ (∀ other, other ∈ after.entries ↔ other ∈ after.arrivals)
      ∧ after.entries.size = after.arrivals.length
      ∧ ∀ other ∈ after.arrivals,
          after.get? other = if key = other then some evaluation else archive.get? other := by
  have hinserted := archive.getElem?_insert key evaluation
  have hoccurs : ∀ other, other ∈ archive.entries.insert key evaluation
      ↔ other = key ∨ other ∈ archive.arrivals := by
    intro other
    rw [Std.HashMap.mem_insert, h.mem_entries, beq_iff_eq, eq_comm]
  by_cases hkey : key ∈ archive.arrivals
  · -- nothing comes in, so nothing has to go
    rw [h.put_resident key evaluation hkey, if_pos hkey]
    refine ⟨rfl, rfl, ?_, ?_, fun other _ => hinserted other⟩
    · intro other
      rw [hoccurs, or_iff_right_of_imp (fun heq => heq ▸ hkey)]
    · rw [Std.HashMap.size_insert, if_pos ((h.mem_entries key).mpr hkey), h.size_eq]
  · -- the table and the arrivals with the new key agree, and from there on room is made
    have hnodup : (archive.arrivals ++ [key]).Nodup :=
      h.nodup.append (List.nodup_singleton key) (List.disjoint_singleton.mpr hkey)
    have hmem : ∀ other, other ∈ archive.entries.insert key evaluation
        ↔ other ∈ archive.arrivals ++ [key] := by
      intro other
      rw [hoccurs, List.mem_append, List.mem_singleton, or_comm]
    have hsize : (archive.entries.insert key evaluation).size = (archive.arrivals ++ [key]).length := by
      have habsent : key ∉ archive.entries := fun hin => hkey ((h.mem_entries key).mp hin)
      rw [Std.HashMap.size_insert, if_neg habsent, h.size_eq, List.length_append, List.length_singleton]
    obtain ⟨hcapacity, harrivals, hagree, hcount, hget⟩ :=
      shrink_spec archive.capacity (archive.arrivals ++ [key]) _ hnodup hmem hsize
    rw [h.put_fresh key evaluation hkey, if_neg hkey]
    exact ⟨hcapacity, harrivals, hagree, hcount,
      fun other hother => (hget other hother).trans (hinserted other)⟩

/-- **Every store keeps an archive sound.** -/
theorem put : (archive.put key evaluation).2.Sound := by
  obtain ⟨hcapacity, harrivals, hagree, hsize, _⟩ := h.put_spec key evaluation
  refine ⟨?_, hagree, hsize, ?_, ?_⟩
  · rw [harrivals]
    split_ifs with hkey
    · exact h.nodup
    · exact (h.nodup.append (List.nodup_singleton key)
        (List.disjoint_singleton.mpr hkey)).sublist (List.drop_sublist _ _)
  · rw [harrivals, hcapacity]
    split_ifs with hkey
    · exact h.length_le
    · rw [List.rtake, List.length_drop]
      omega
  · rw [hcapacity]
    exact h.capacity_pos

/-- A key that was just stored is there, with what was stored. -/
theorem get?_put_self : (archive.put key evaluation).2.get? key = some evaluation := by
  obtain ⟨_, harrivals, _, _, hget⟩ := h.put_spec key evaluation
  have hthere : key ∈ (archive.put key evaluation).2.arrivals := by
    rw [harrivals]
    split_ifs with hkey
    · exact hkey
    · -- there is room for at least one, and the key is the newest
      rw [rtake_concat h.length_le h.capacity_pos]
      exact List.mem_append_right _ (List.mem_singleton_self key)
  rw [hget key hthere, if_pos rfl]

/-- What can be looked up after a store: the new value, and the values of the other keys that stayed. -/
theorem get?_put (other : ArchiveKey) :
    (archive.put key evaluation).2.get? other
      = if other = key then some evaluation
        else if other ∈ (archive.put key evaluation).2.arrivals then archive.get? other else none := by
  split_ifs with hsame hthere
  · rw [hsame]
    exact h.get?_put_self key evaluation
  · obtain ⟨_, _, _, _, hget⟩ := h.put_spec key evaluation
    rw [hget other hthere, if_neg fun heq => hsame heq.symm]
  · exact (h.put key evaluation).get?_eq_none hthere

end Sound

/-! ## Stores into any archive

Even if the table and the arrivals do not agree, a store touches no more than it has to. -/

/-- What making room does to any table and any arrivals: it gives up keys from the front, with their values, and
none of them if there is room already. -/
theorem shrink_frame (capacity : Nat) (entries : Std.HashMap ArchiveKey Evaluation) (arrivals : List ArchiveKey) :
    ∃ gone, arrivals = gone ++ (shrink capacity entries arrivals).arrivals
      ∧ (shrink capacity entries arrivals).capacity = capacity
      ∧ (entries.size ≤ capacity → gone = [])
      ∧ ∀ key, (shrink capacity entries arrivals).get? key = if key ∈ gone then none else entries[key]? := by
  induction arrivals generalizing entries with
  | nil => exact ⟨[], rfl, rfl, fun _ => rfl, fun _ => rfl⟩
  | cons oldest rest ih =>
      by_cases hroom : entries.size ≤ capacity
      · rw [shrink, if_pos hroom]
        exact ⟨[], rfl, rfl, fun _ => rfl, fun _ => rfl⟩
      · obtain ⟨gone, harrivals, hcapacity, -, hget⟩ := ih (entries.erase oldest)
        rw [shrink, if_neg hroom]
        refine ⟨oldest :: gone, congrArg (oldest :: ·) harrivals, hcapacity, fun h => absurd h hroom, fun key => ?_⟩
        rw [hget key, Std.HashMap.getElem?_erase]
        by_cases hkey : key = oldest
        · simp [hkey]
        · simp [hkey, Ne.symm hkey]

/-- **One store into any archive.** The key is added behind the others unless it is there. Keys go from the front,
none of them without need, and no other value changes. -/
theorem put_frame (archive : Archive) (key : ArchiveKey) (evaluation : Evaluation) :
    let after := (archive.put key evaluation).2
    after.capacity = archive.capacity
      ∧ ∃ gone, archive.arrivals ++ (if key ∈ archive.entries then [] else [key]) = gone ++ after.arrivals
        ∧ (key ∈ archive.entries ∨ archive.entries.size < archive.capacity → gone = [])
        ∧ ∀ other, after.get? other
            = if other ∈ gone then none else if key = other then some evaluation else archive.get? other := by
  intro after
  have hinserted := archive.getElem?_insert key evaluation
  by_cases hkey : key ∈ archive.entries
  · have hafter : after = { archive with entries := archive.entries.insert key evaluation } := by
      change (archive.put key evaluation).2 = _
      rw [put, if_pos (Std.HashMap.contains_iff_mem.mpr hkey)]
    rw [hafter, if_pos hkey, List.append_nil]
    exact ⟨rfl, [], rfl, fun _ => rfl, hinserted⟩
  · -- the loop is taken as it is here, since nothing is known of how the table and the arrivals go together
    have hafter : after
        = shrink archive.capacity (archive.entries.insert key evaluation) (archive.arrivals ++ [key]) := by
      change (archive.put key evaluation).2 = _
      rw [put, if_neg (mt Std.HashMap.contains_iff_mem.mp hkey)]
    obtain ⟨gone, harrivals, hcapacity, hroom, hget⟩ :=
      shrink_frame archive.capacity (archive.entries.insert key evaluation) (archive.arrivals ++ [key])
    rw [← hafter] at harrivals hcapacity hget
    rw [if_neg hkey]
    refine ⟨hcapacity, gone, harrivals, fun hspace => hroom ?_, fun other => ?_⟩
    · rw [Std.HashMap.size_insert, if_neg hkey]
      exact hspace.resolve_left hkey
    · rw [hget other, hinserted other]

/-! ## A run of stores -/

/-- Something to be stored: an evaluation and its key. -/
abbrev Item := ArchiveKey × Evaluation

/-- The archive after a run of stores. -/
def keep (archive : Archive) (items : List Item) : Archive :=
  items.foldl (fun archive item => (archive.put item.1 item.2).2) archive

/-- The keys that were not there when they were stored, in the order in which they came in. -/
def newKeys : Archive → List Item → List ArchiveKey
  | _, [] => []
  | archive, (key, evaluation) :: rest =>
    (if (archive.get? key).isSome then [] else [key])
      ++ newKeys (archive.put key evaluation).2 rest

/-- What was stored under a key last. -/
def latest? (items : List Item) (key : ArchiveKey) : Option Evaluation :=
  (items.reverse.find? fun item => item.1 = key).map Prod.snd

@[simp] theorem keep_append (archive : Archive) (items others : List Item) :
    archive.keep (items ++ others) = (archive.keep items).keep others :=
  List.foldl_append

theorem newKeys_append (archive : Archive) (items others : List Item) :
    archive.newKeys (items ++ others) = archive.newKeys items ++ (archive.keep items).newKeys others := by
  induction items generalizing archive with
  | nil => rfl
  | cons item rest ih =>
      rw [List.cons_append, newKeys, newKeys, ih, List.append_assoc]
      rfl

/-- Every run of stores keeps an archive sound. -/
theorem Sound.keep (h : archive.Sound) (items : List Item) : (archive.keep items).Sound := by
  induction items generalizing archive with
  | nil => exact h
  | cons item rest ih => exact ih (h.put item.1 item.2)

theorem Sound.capacity_keep (h : archive.Sound) (items : List Item) :
    (archive.keep items).capacity = archive.capacity := by
  induction items generalizing archive with
  | nil => rfl
  | cons item rest ih =>
      obtain ⟨hcapacity, _⟩ := h.put_spec item.1 item.2
      exact (ih (h.put item.1 item.2)).trans hcapacity

/-- Taking the newest of the newest and one more is taking the newest of all and one more. -/
theorem rtake_rtake_append {α : Type} (n : Nat) (old new : List α) :
    (old.rtake n ++ new).rtake n = (old ++ new).rtake n := by
  simp only [List.rtake, List.length_append, List.length_drop]
  rcases Nat.le_total old.length n with hle | hle
  · rw [Nat.sub_eq_zero_of_le hle, List.drop_zero, Nat.sub_zero]
  · rw [List.drop_append, List.drop_append, List.drop_drop, List.length_drop]
    congr 2 <;> omega

/-- **What is there are the last keys that came in as new**, as many as there is room for. -/
theorem arrivals_keep (maxEntries : Nat) (items : List Item) :
    ((empty maxEntries).keep items).arrivals
      = ((empty maxEntries).newKeys items).rtake (max 1 maxEntries) := by
  have hempty := sound_empty maxEntries
  induction items using List.reverseRecOn with
  | nil => exact List.rtake_nil _ |>.symm
  | append_singleton items item ih =>
      have hsound := hempty.keep items
      obtain ⟨_, harrivals, _⟩ := hsound.put_spec item.1 item.2
      have hcapacity : ((empty maxEntries).keep items).capacity = max 1 maxEntries :=
        hempty.capacity_keep items
      rw [keep_append, newKeys_append]
      refine harrivals.trans ?_
      have hnew : ((empty maxEntries).keep items).newKeys [item]
          = if item.1 ∈ ((empty maxEntries).keep items).arrivals then [] else [item.1] := by
        simp only [newKeys, List.append_nil, hsound.isSome_get?]
      rw [hnew, hcapacity]
      split_ifs with hkey
      · rw [List.append_nil, ih]
      · rw [ih, rtake_rtake_append]

/-- **What is there has the value that was stored last.** A key that went and came back does not bring its
old value back. -/
theorem get?_keep (maxEntries : Nat) (items : List Item) {key : ArchiveKey}
    (hkey : key ∈ ((empty maxEntries).keep items).arrivals) :
    ((empty maxEntries).keep items).get? key = latest? items key := by
  have hempty := sound_empty maxEntries
  induction items using List.reverseRecOn with
  | nil => exact absurd hkey List.not_mem_nil
  | append_singleton items item ih =>
      have hsound := hempty.keep items
      obtain ⟨_, harrivals, _, _, hget⟩ := hsound.put_spec item.1 item.2
      rw [keep_append] at hkey ⊢
      refine (hget key hkey).trans ?_
      rw [latest?, List.reverse_append, List.reverse_singleton, List.singleton_append]
      by_cases heq : item.1 = key
      · simp [heq]
      · rw [if_neg heq, List.find?_cons_of_neg (by simpa using heq)]
        refine ih ?_
        -- a key that is there now and is not the new one was there before
        replace hkey : key ∈ (((empty maxEntries).keep items).put item.1 item.2).2.arrivals := hkey
        rw [harrivals] at hkey
        split_ifs at hkey with hresident
        · exact hkey
        · have hin := List.mem_of_mem_drop hkey
          rw [List.mem_append, List.mem_singleton] at hin
          exact hin.resolve_right fun h => heq h.symm

end Appraisal.Archive
