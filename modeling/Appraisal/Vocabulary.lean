/-
Closed vocabularies: the finite kinds of thing that a deal speaks of.

A washer, a scratch, the left side: each kind is an enumeration, and each of its members has one word by
which files and messages know it. The order of the members is part of the kind, since messages list them
in that order and sets of them are written in it.

A set of members is a `Selection`, the predicate of belonging. It has no order and no repetitions of its
own, so two lists that name the same members give equal selections; `toList` lists a selection in the
order of its kind.
-/

set_option autoImplicit false

namespace Appraisal

/-- A finite kind whose members each have a word of their own. -/
class Vocabulary (α : Type) where
  /-- The members, in the order of the kind. -/
  all : List α
  /-- The word for a member. -/
  word : α → String
  /-- The list is complete. -/
  mem_all : ∀ a, a ∈ all
  /-- No two members share a word. -/
  word_inj : ∀ a b, word a = word b → a = b

namespace Vocabulary

variable {α : Type} [Vocabulary α]

/-- The words of a kind, in its order. -/
def words (α : Type) [Vocabulary α] : List String :=
  (all : List α).map word

/-- The member with the given word. -/
def ofWord? (w : String) : Option α :=
  all.find? fun a => word a == w

/-- Looking up the word of a member finds that member. -/
@[simp] theorem ofWord?_word (a : α) : ofWord? (word a) = some a := by
  unfold ofWord?
  cases h : all.find? fun b : α => word b == word a with
  | none =>
    have := List.find?_eq_none.1 h a (mem_all a)
    simp at this
  | some b =>
    have hb := List.find?_some h
    rw [word_inj b a (by simpa using hb)]

end Vocabulary

/-! ## Selections -/

/-- A set of members of a kind. -/
structure Selection (α : Type) where
  holds : α → Bool

namespace Selection

variable {α : Type}

/-- The selection of the members of a list. -/
def ofList [BEq α] (members : List α) : Selection α :=
  ⟨fun a => members.contains a⟩

/-- The members of a selection, in the order of their kind. -/
def toList [Vocabulary α] (s : Selection α) : List α :=
  Vocabulary.all.filter s.holds

/-- Selections with the same members are equal. -/
@[ext] theorem ext {s t : Selection α} (h : ∀ a, s.holds a = t.holds a) : s = t := by
  cases s; cases t
  simpa using funext h

/-- Exactly the members are listed. -/
@[simp] theorem mem_toList [Vocabulary α] {s : Selection α} {a : α} :
    a ∈ s.toList ↔ s.holds a = true := by
  simp [toList, Vocabulary.mem_all]

/-- Listing a selection and collecting the list again changes nothing. -/
@[simp] theorem ofList_toList [Vocabulary α] [BEq α] [LawfulBEq α] (s : Selection α) :
    ofList s.toList = s := by
  ext a
  rw [Bool.eq_iff_iff]
  simp [ofList]

end Selection

end Appraisal
