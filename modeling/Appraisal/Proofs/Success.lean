/-
What a successful reading says of its parts.

Scanners and decoders are put together from smaller ones, and each of them can fail. A proof about a value that
was read takes the reading apart from the outside in: every part was read, and the value is made of what the parts
were read as. With the lemmas here it does so without a look at the ways to fail.
-/
import Mathlib.Data.List.Forall2
import Appraisal.Json.Decoder

set_option autoImplicit false

namespace Appraisal.Json

/-! ## Steps -/

section Steps

variable {ε ε' α β : Type}

theorem bind_eq_ok {x : Except ε α} {f : α → Except ε β} {b : β} :
    (x >>= f) = .ok b ↔ ∃ a, x = .ok a ∧ f a = .ok b := by
  cases x <;> simp [bind, Except.bind]

theorem pure_eq_ok {a b : α} : (pure a : Except ε α) = .ok b ↔ a = b := by
  simp [pure, Except.pure]

theorem throw_ne_ok {e : ε} {a : α} : (throw e : Except ε α) ≠ .ok a := by
  simp [throw, throwThe, MonadExceptOf.throw]

theorem map_eq_ok {x : Except ε α} {f : α → β} {b : β} : x.map f = .ok b ↔ ∃ a, x = .ok a ∧ f a = b := by
  cases x <;> simp [Except.map]

theorem mapError_eq_ok {x : Except ε α} {f : ε → ε'} {a : α} : x.mapError f = .ok a ↔ x = .ok a := by
  cases x <;> simp [Except.mapError]

end Steps

/-! ## Words -/

section Words

variable {α : Type} [Vocabulary α]

/-- A word that is written as an object is its only key, and `null` stands under it. -/
theorem word_object_eq_ok {members : List (Quotation × Node)} {ending : ObjectEnd} {a : α} :
    Decoder.word .direct (.object members ending) = .ok a
      ↔ ∃ key, members = [(.ok key, .null)] ∧ ending = .closed ∧ Decoder.member key = .ok a := by
  -- only nothing is read as nothing
  have hnothing : ∀ value, Decoder.nothing .direct value = .ok () ↔ value = .null := by
    intro value
    cases value <;> simp [Decoder.nothing]
  match members with
  | [] => exact iff_of_false (fun h => by cases h) (by simp)
  | (.error fault, value) :: rest => exact iff_of_false (fun h => by cases h) (by simp)
  | (.ok key, value) :: rest =>
      rw [Decoder.word]
      simp only [Decoder.keyedWord, bind_eq_ok, pure_eq_ok, mapError_eq_ok]
      constructor
      · rintro ⟨b, ⟨c, hkey, ⟨⟩, hvalue, rfl⟩, hend⟩
        obtain rfl := (hnothing value).mp hvalue
        split at hend
        · exact ⟨key, rfl, rfl, by rw [hkey, pure_eq_ok.mp hend]⟩
        · exact absurd hend throw_ne_ok
        · exact absurd hend throw_ne_ok
      · rintro ⟨_, ⟨⟩, rfl, hkey⟩
        exact ⟨a, ⟨a, hkey, (), rfl, rfl⟩, rfl⟩

end Words

/-! ## Lists -/

section Lists

variable {α : Type} {decode : Decoder α} {items : List Node} {as : List α}

/-- The items of an array are read one by one. -/
theorem decodeItems_eq_ok (position : Nat) :
    Decoder.decodeItems decode .direct position items = .ok as
      ↔ List.Forall₂ (fun item a => decode .direct item = .ok a) items as := by
  induction items generalizing position as with
  | nil =>
      rw [Decoder.decodeItems, List.forall₂_nil_left_iff, Except.ok.injEq]
      exact eq_comm
  | cons item items ih =>
      rw [Decoder.decodeItems, List.forall₂_cons_left_iff]
      simp only [bind_eq_ok, pure_eq_ok, mapError_eq_ok, ih (position + 1)]
      constructor
      · rintro ⟨a, ha, rest, hrest, rfl⟩
        exact ⟨a, rest, ha, hrest, rfl⟩
      · rintro ⟨a, rest, ha, hrest, rfl⟩
        exact ⟨a, ha, rest, hrest, rfl⟩

/-- An array that is read as a list is closed behind its last item. -/
theorem list_eq_ok {ending : ArrayEnd} :
    Decoder.list decode .direct (.array items ending) = .ok as
      ↔ List.Forall₂ (fun item a => decode .direct item = .ok a) items as ∧ ending = .closed := by
  rw [Decoder.list]
  simp only [bind_eq_ok, decodeItems_eq_ok]
  cases ending <;> simp [ArrayEnd.strictFault?, pure_eq_ok, throw_ne_ok]

end Lists

/-! ## Parts of a record -/

namespace Located

variable {α β : Type}

/-- Two parts are read when both of them are. -/
theorem both_eq_of {f : Located (α → β)} {x : Located α} {b : β} :
    both f x = .of b ↔ ∃ g a, f = .of g ∧ x = .of a ∧ g a = b := by
  constructor
  · intro h
    rcases f with e | g <;> rcases x with e' | a
    · have h : (if e'.1 < e.1 then Located.failure e'.1 e'.2 else .failure e.1 e.2) = .of b := h
      split at h <;> cases h
    · cases h
    · cases h
    · exact ⟨g, a, rfl, rfl, Except.ok.inj h⟩
  · rintro ⟨g, a, rfl, rfl, rfl⟩
    rfl

/-- Of two parts, the second of which has no value of its own. -/
theorem both_first_eq_of {x : Located α} {y : Located Unit} {a : α} :
    both (both (of fun a _ => a) x) y = .of a ↔ x = .of a ∧ y = .of () := by
  simp only [both_eq_of]
  constructor
  · rintro ⟨_, ⟨⟩, ⟨_, b, hf, hx, rfl⟩, hy, rfl⟩
    cases hf
    exact ⟨hx, hy⟩
  · rintro ⟨hx, hy⟩
    exact ⟨_, (), ⟨_, a, rfl, hx, rfl⟩, hy, rfl⟩

theorem toExcept_eq_ok {x : Located α} {a : α} : x.toExcept = .ok a ↔ x = .of a := by
  rcases x with e | b
  · exact iff_of_false (fun h => by cases h) (fun h => by cases h)
  · exact ⟨fun h => congrArg Except.ok (Except.ok.inj h), fun h => congrArg Except.ok (Except.ok.inj h)⟩

end Located

section Records

variable {α : Type} {title : String} {names : List String} {build : Record → Located α} {a : α}

/-- An object is read when its fields are and nothing remains to be said against it. -/
theorem record_named {members : List (Quotation × Node)} {ending : ObjectEnd} :
    record title names build .direct (.object members ending) = .ok a
      ↔ build ⟨.direct, title, names, .named members ending⟩ = .of a
        ∧ Record.remainder ⟨.direct, title, names, .named members ending⟩ = .of () :=
  Located.toExcept_eq_ok.trans Located.both_first_eq_of

/-- And so is an array. -/
theorem record_listed {items : List Node} {ending : ArrayEnd} :
    record title names build .direct (.array items ending) = .ok a
      ↔ build ⟨.direct, title, names, .listed items ending⟩ = .of a
        ∧ Record.remainder ⟨.direct, title, names, .listed items ending⟩ = .of () :=
  Located.toExcept_eq_ok.trans Located.both_first_eq_of

/-- Is a value read where a field is looked for, then the decoder of the field reads it. -/
theorem placed_eq_of {decode : Decoder α} {value : Node} {place : Nat} {step : Step} :
    (match decode .direct value with
      | .ok a => .of a
      | .error e => .failure place (e.under step) : Located α) = .of a ↔ decode .direct value = .ok a := by
  cases decode .direct value with
  | error e => exact iff_of_false (fun h => by cases h) (fun h => by cases h)
  | ok b => exact ⟨fun h => congrArg Except.ok (Except.ok.inj h), fun h => congrArg Except.ok (Except.ok.inj h)⟩

end Records

/-! ## Whole texts -/

/-- A text that is decoded holds nothing behind its value. -/
theorem decodeText_eq_ok {α : Type} {decode : Decoder α} {text : String} {a : α} :
    decodeText decode text = .ok a
      ↔ decode .direct (Document.read text).root = .ok a ∧ (Document.read text).more = false := by
  rw [decodeText]
  simp only [bind_eq_ok]
  cases (Document.read text).more <;> simp [pure_eq_ok, throw_ne_ok]

end Appraisal.Json
