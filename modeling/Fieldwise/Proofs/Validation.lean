import Fieldwise.Proofs.RelatedLists
import Fieldwise.Validation

/-! # What a passed check says

A check that returns a value has returned one for each of its parts, and a sequence of documents
passes if each of them does. -/

namespace Fieldwise

variable {α β ε ε' : Type}

theorem eq_ok_of_mapError {change : ε → ε'} {result : Except ε α} {value : α}
    (passed : result.mapError change = .ok value) : result = .ok value := by
  cases result with
  | error _ => cases passed
  | ok _ => exact congrArg Except.ok (Except.ok.inj passed)

theorem eq_ok_of_toOption {result : Except ε α} {value : α} (found : result.toOption = some value) :
    result = .ok value := by
  cases result with
  | error _ => cases found
  | ok _ => exact congrArg Except.ok (Option.some.inj found)

/-- The error that a computation ends with. -/
def failure? {ε α : Type} : Except ε α → Option ε
  | .ok _ => none
  | .error error => some error

theorem failure?_eq_none_iff (result : Except ε α) :
    failure? result = none ↔ ∃ value, result = .ok value := by
  cases result with
  | ok value => exact ⟨fun _ => ⟨value, rfl⟩, fun _ => rfl⟩
  | error _ => exact ⟨nofun, nofun⟩

theorem failure?_eq_some_iff (result : Except ε α) (error : ε) :
    failure? result = some error ↔ result = .error error := by
  cases result with
  | ok _ => exact ⟨nofun, nofun⟩
  | error _ => exact ⟨fun same => congrArg _ (Option.some.inj same), fun same => by cases same; rfl⟩

/-- A computation fails with its first failure. -/
theorem failure?_bind {first : Except ε α} {next : α → Except ε β} {fault : Option ε}
    (second : ∀ value, failure? (next value) = fault) :
    failure? (first >>= next) = (failure? first).or fault := by
  cases first with
  | ok value => exact second value
  | error _ => rfl

theorem failure?_map (first : Except ε α) (next : α → β) :
    failure? (first >>= fun value => pure (next value)) = failure? first := by
  cases first <;> rfl

theorem failure?_mapError (first : Except ε α) (wrap : ε → ε') :
    failure? (first.mapError wrap) = (failure? first).map wrap := by
  cases first <;> rfl

/-- Each item of a mapped list is mapped. -/
theorem forall₂_of_mapM_eq_ok {change : α → Except ε β} {items : List α} {values : List β}
    (passed : items.mapM change = .ok values) :
    List.Forall₂ (fun item value => change item = .ok value) items values := by
  induction items generalizing values with
  | nil =>
    cases passed
    exact .nil
  | cons item rest ih =>
    rw [List.mapM_cons] at passed
    cases first : change item with
    | error _ =>
      rw [first] at passed
      cases passed
    | ok value =>
      cases others : rest.mapM change with
      | error _ =>
        rw [first, others] at passed
        cases passed
      | ok _ =>
        rw [first, others] at passed
        cases passed
        exact .cons first (ih others)

/-- A list is mapped if each item is. -/
theorem mapM_eq_ok {change : α → Except ε β} {items : List α} {values : List β}
    (each : List.Forall₂ (fun item value => change item = .ok value) items values) :
    items.mapM change = .ok values := by
  induction each with
  | nil => rfl
  | cons first _ ih =>
    rw [List.mapM_cons, first, ih]
    rfl

theorem Checked.eq_ok_of_within {step : PathStep} {checked : Checked α} {value : α}
    (passed : checked.within step = .ok value) : checked = .ok value :=
  eq_ok_of_mapError passed

theorem Checked.eq_ok_of_map {change : α → β} {checked : Checked α} {value : β}
    (passed : checked.map change = .ok value) :
    ∃ part, checked = .ok part ∧ change part = value := by
  cases checked with
  | error _ => cases passed
  | ok part => exact ⟨part, rfl, Except.ok.inj passed⟩

theorem Checked.eq_ok_of_both {first : Checked α} {second : Checked β} {value : α × β}
    (passed : first.both second = .ok value) : first = .ok value.1 ∧ second = .ok value.2 := by
  cases first with
  | error _ => cases second <;> cases passed
  | ok _ =>
    cases second with
    | error _ => cases passed
    | ok _ =>
      cases passed
      exact ⟨rfl, rfl⟩

namespace Datum

variable {entries : List (Datum × Datum)} {check : Datum → Checked α} {value : α}

theorem eq_ok_of_closed {declared : List String} {fields : Checked α}
    (passed : closed declared entries fields = .ok value) : fields = .ok value := by
  rw [closed] at passed
  split at passed
  · exact passed
  · split at passed <;> cases passed

/-- A required value is present and has passed its own check. -/
theorem check_of_required {name : String} (passed : required entries name check = .ok value) :
    ∃ datum, lookup? name entries = some datum ∧ check datum = .ok value := by
  have passed := Checked.eq_ok_of_within passed
  split at passed
  · rename_i datum found
    exact ⟨datum, found, passed⟩
  · cases passed

/-- A value with a default is absent and the default, or is present and has passed its own check. -/
theorem check_of_defaulted {name : String} {default : α}
    (passed : defaulted entries name default check = .ok value) :
    lookup? name entries = none ∧ value = default ∨
      ∃ datum, lookup? name entries = some datum ∧ check datum = .ok value := by
  have passed := Checked.eq_ok_of_within passed
  split at passed
  · rename_i datum found
    exact .inr ⟨datum, found, passed⟩
  · rename_i absent
    exact .inl ⟨absent, (Except.ok.inj passed).symm⟩

/-- Each item of a checked sequence has passed the check of items. -/
theorem forall₂_of_checkEach {index : Nat} {items : List Datum} {values : List α}
    (passed : checkEach check index items = .ok values) :
    List.Forall₂ (fun item value => check item = .ok value) items values := by
  induction items generalizing index values with
  | nil =>
    cases passed
    exact .nil
  | cons item rest ih =>
    obtain ⟨parts, both, rfl⟩ := Checked.eq_ok_of_map passed
    obtain ⟨first, others⟩ := Checked.eq_ok_of_both both
    exact .cons (Checked.eq_ok_of_within first) (ih others)

theorem forall₂_of_checkItems {datum : Datum} {values : List α}
    (passed : checkItems check datum = .ok values) : ∃ items, datum.items? = some items ∧
      List.Forall₂ (fun item value => check item = .ok value) items values := by
  rw [checkItems] at passed
  split at passed
  · rename_i items found
    exact ⟨items, found, forall₂_of_checkEach passed⟩
  · cases passed

/-- A sequence passes if each item does. -/
theorem checkEach_eq_ok {items : List Datum} {values : List α} (index : Nat)
    (each : List.Forall₂ (fun item value => check item = .ok value) items values) :
    checkEach check index items = .ok values := by
  induction each generalizing index with
  | nil => rfl
  | cons first _ ih =>
    rw [checkEach, first, ih]
    rfl

theorem test_of_checkTextBy {test : String → Except String α} {datum : Datum}
    (passed : checkTextBy test datum = .ok value) :
    ∃ text, datum.checkText = .ok text ∧ test text = .ok value := by
  rw [checkTextBy] at passed
  split at passed
  · rename_i text found
    exact ⟨text, found, eq_ok_of_mapError passed⟩
  · cases passed

end Datum

end Fieldwise
