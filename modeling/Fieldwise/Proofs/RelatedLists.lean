import Mathlib.Data.List.Forall2

/-! # Lists of related items

Two lists are compared item by item by `List.Forall₂`. What is made of the items of both is equal if
it is equal for related items, and a search by key finds related items in both. -/

namespace Fieldwise

variable {α β γ κ : Type} {related : α → β → Prop} {items : List α} {others : List β}

/-- Lists of related items have equal parts where related items have. -/
theorem flatMap_eq_of_forall₂ {parts : α → List γ} {parts' : β → List γ}
    (each : List.Forall₂ related items others)
    (same : ∀ item other, related item other → parts item = parts' other) :
    items.flatMap parts = others.flatMap parts' := by
  induction each with
  | nil => rfl
  | cons first _ ih => rw [List.flatMap_cons, List.flatMap_cons, same _ _ first, ih]

theorem filterMap_eq_of_forall₂ {part : α → Option γ} {part' : β → Option γ}
    (each : List.Forall₂ related items others)
    (same : ∀ item other, related item other → part item = part' other) :
    items.filterMap part = others.filterMap part' := by
  rw [List.filterMap_eq_flatMap_toList, List.filterMap_eq_flatMap_toList]
  exact flatMap_eq_of_forall₂ each fun item other alike => by rw [same item other alike]

theorem map_eq_of_forall₂ {change : α → γ} {change' : β → γ}
    (each : List.Forall₂ related items others)
    (same : ∀ item other, related item other → change item = change' other) :
    items.map change = others.map change' := by
  rw [List.map_eq_flatMap, List.map_eq_flatMap]
  exact flatMap_eq_of_forall₂ each fun item other alike => by rw [same item other alike]

theorem findSome?_eq_of_forall₂ {find : α → Option γ} {find' : β → Option γ}
    (each : List.Forall₂ related items others)
    (same : ∀ item other, related item other → find item = find' other) :
    items.findSome? find = others.findSome? find' := by
  induction each with
  | nil => rfl
  | cons first _ ih => rw [List.findSome?_cons, List.findSome?_cons, same _ _ first, ih]

/-- A key is found in both lists or in neither, and the items found are related. -/
theorem find?_key_related [BEq κ] {key : α → κ} {key' : β → κ}
    (same : ∀ item other, related item other → key item = key' other)
    (each : List.Forall₂ related items others) (wanted : κ) :
    Option.Rel related (items.find? (key · == wanted)) (others.find? (key' · == wanted)) := by
  induction each with
  | nil => exact .none
  | @cons item other _ _ alike _ ih =>
    rw [List.find?_cons, List.find?_cons, same item other alike]
    cases key' other == wanted with
    | true => exact .some alike
    | false => exact ih

/-- Every item of the second list is related to one of the first. -/
theorem exists_of_forall₂ (each : List.Forall₂ related items others) :
    ∀ other ∈ others, ∃ item ∈ items, related item other := by
  induction each with
  | nil => exact List.forall_mem_nil _
  | cons first _ ih =>
    refine List.forall_mem_cons.2 ⟨⟨_, List.mem_cons_self, first⟩, fun other member => ?_⟩
    obtain ⟨item, itemIn, same⟩ := ih other member
    exact ⟨item, List.mem_cons_of_mem _ itemIn, same⟩

/-- What is found first along one list is related to what is found first along another. -/
theorem rel_findSome? {δ : Type} {results : γ → δ → Prop} {find : α → Option γ}
    {find' : β → Option δ} (each : List.Forall₂ related items others)
    (alike : ∀ item other, related item other → Option.Rel results (find item) (find' other)) :
    Option.Rel results (items.findSome? find) (others.findSome? find') := by
  induction each with
  | nil => exact .none
  | @cons item other _ _ first _ ih =>
    have found := alike item other first
    rw [List.findSome?_cons, List.findSome?_cons]
    generalize find item = one at found ⊢
    generalize find' other = two at found ⊢
    cases found with
    | none => exact ih
    | some same => exact .some same

/-- The first of two results that is there is related if both are. -/
theorem rel_or {first second : Option α} {first' second' : Option β}
    (left : Option.Rel related first first') (right : Option.Rel related second second') :
    Option.Rel related (first.or second) (first'.or second') := by
  cases left with
  | none => exact right
  | some same => exact .some same

/-- What is there is related to itself if it is of the kind that the relation holds of. -/
theorem rel_self {related : α → α → Prop} {found : Option α}
    (each : ∀ item, found = some item → related item item) : Option.Rel related found found := by
  cases found with
  | none => exact .none
  | some item => exact .some (each item rfl)

theorem rel_imp {weaker : α → β → Prop} {first : Option α} {second : Option β}
    (alike : Option.Rel related first second)
    (further : ∀ item other, related item other → weaker item other) :
    Option.Rel weaker first second := by
  cases alike with
  | none => exact .none
  | some same => exact .some (further _ _ same)

/-- The second list holds what becomes of the items of the first, all of which have a property. -/
theorem forall₂_and_eq_iff {property : α → Prop} {change : α → β} :
    List.Forall₂ (fun item other => property item ∧ change item = other) items others ↔
      (∀ item ∈ items, property item) ∧ items.map change = others := by
  rw [List.forall₂_and_left, ← List.forall₂_eq_eq_eq, List.forall₂_map_left_iff]

/-- What a step makes of the items of a list, item by item. -/
theorem forall₂_of_mapM {change : α → Option β} (found : items.mapM change = some others) :
    List.Forall₂ (fun item other => change item = some other) items others := by
  induction items generalizing others with
  | nil =>
    cases found
    exact .nil
  | cons item rest ih =>
    rw [List.mapM_cons] at found
    obtain ⟨value, first, found⟩ := Option.bind_eq_some_iff.1 found
    obtain ⟨values, further, same⟩ := Option.bind_eq_some_iff.1 found
    cases same
    exact .cons first (ih further)

end Fieldwise
