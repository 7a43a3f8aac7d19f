import Fieldwise.Schema.Basic

/-! # First repeats

Schemas of one name, fields of one name and functions of one name are refused by a search for the
first item that occurred earlier. The search finds an item exactly if no two items before it are the
same and it is one of them, and it finds one in every list that is not distinct. -/

namespace Fieldwise

variable {α : Type}

/-- An item that occurred earlier in a list, while all items before it are distinct. -/
def IsFirstRepeat (items : List α) (item : α) : Prop :=
  ∃ before after, items = before ++ item :: after ∧ before.Nodup ∧ item ∈ before

variable [DecidableEq α]

/-- The search stops at the first item that is among those seen before, in the list or ahead of it. -/
theorem firstRepeatFrom_eq_some_iff (seen items : List α) (item : α) :
    firstRepeatFrom seen items = some item ↔ ∃ before after, items = before ++ item :: after ∧
      firstRepeatFrom seen before = none ∧ (item ∈ before ∨ item ∈ seen) := by
  induction items generalizing seen with
  | nil => simp [firstRepeatFrom]
  | cons first rest ih =>
    rw [firstRepeatFrom]
    split
    · rename_i repeated
      constructor
      · rintro ⟨⟩
        exact ⟨[], rest, rfl, rfl, .inr repeated⟩
      · rintro ⟨before, after, same, unrepeated, -⟩
        cases before with
        | nil =>
          cases same
          rfl
        | cons other before =>
          cases same
          rw [firstRepeatFrom, if_pos repeated] at unrepeated
          cases unrepeated
    · rename_i fresh
      rw [ih]
      constructor
      · rintro ⟨before, after, rfl, unrepeated, earlier⟩
        refine ⟨first :: before, after, rfl, ?_, ?_⟩
        · rw [firstRepeatFrom, if_neg fresh, unrepeated]
        · simpa only [List.mem_cons, or_left_comm, or_assoc] using earlier
      · rintro ⟨before, after, same, unrepeated, earlier⟩
        cases before with
        | nil =>
          cases same
          exact (earlier.elim List.not_mem_nil fresh).elim
        | cons other before =>
          cases same
          rw [firstRepeatFrom, if_neg fresh] at unrepeated
          refine ⟨before, after, rfl, unrepeated, ?_⟩
          simpa only [List.mem_cons, or_left_comm, or_assoc] using earlier

theorem firstRepeat?_eq_some_iff (items : List α) (item : α) :
    firstRepeat? items = some item ↔ IsFirstRepeat items item := by
  have unseen (before : List α) : firstRepeatFrom [] before = none ↔ before.Nodup :=
    firstRepeat?_eq_none_iff before
  simp only [firstRepeat?, firstRepeatFrom_eq_some_iff, unseen, List.not_mem_nil, or_false,
    IsFirstRepeat]

/-- Exactly the lists that are not distinct have a first repeat. -/
theorem exists_isFirstRepeat_iff (items : List α) :
    (∃ item, IsFirstRepeat items item) ↔ ¬ items.Nodup := by
  simp only [← firstRepeat?_eq_some_iff, ← firstRepeat?_eq_none_iff, Option.ne_none_iff_exists',
    ← ne_eq]

end Fieldwise
