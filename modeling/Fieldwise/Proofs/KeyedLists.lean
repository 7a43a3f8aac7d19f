import Mathlib.Data.List.Basic
import Mathlib.Data.List.Nodup

/-! # Lists of keyed items

Fields are known by their names, operations by kind and pair, functions by their names. These lists
are looked up by key, and other lists are selected from them item by item: a lookup among distinct
keys finds the only item of the key, and a selection that keeps keys keeps their order. -/

namespace Fieldwise

variable {α β κ : Type}

/-- Among items of distinct keys a lookup finds exactly the item of the key. -/
theorem find?_key_eq_some_iff [BEq κ] [LawfulBEq κ] {key : α → κ} {items : List α}
    (distinct : (items.map key).Nodup) (wanted : κ) (item : α) :
    items.find? (fun other => key other == wanted) = some item ↔ item ∈ items ∧ key item = wanted := by
  constructor
  · intro found
    exact ⟨List.mem_of_find?_eq_some found, by simpa using List.find?_some found⟩
  · rintro ⟨member, rfl⟩
    have present : (items.find? (fun other => key other == key item)).isSome :=
      List.find?_isSome.2 ⟨item, member, by simp⟩
    obtain ⟨other, found⟩ := Option.isSome_iff_exists.1 present
    have same : key other = key item := by simpa using List.find?_some found
    rw [found, List.inj_on_of_nodup_map distinct (List.mem_of_find?_eq_some found) member same]

theorem lookup_cons_eq_ite [DecidableEq κ] (wanted key : κ) (item : α) (rest : List (κ × α)) :
    ((key, item) :: rest).lookup wanted = if wanted = key then some item else rest.lookup wanted := by
  rw [List.lookup_cons]
  split
  · rename_i same
    rw [if_pos (beq_iff_eq.1 same)]
  · rename_i differ
    rw [if_neg (beq_eq_false_iff_ne.1 differ)]

theorem lookup_map_of_mem [DecidableEq κ] {key : α → κ} (value : α → β) {items : List α}
    (distinct : (items.map key).Nodup) {item : α} (member : item ∈ items) :
    (items.map fun other => (key other, value other)).lookup (key item) = some (value item) := by
  induction items with
  | nil => cases member
  | cons first rest ih =>
    obtain ⟨fresh, distinctRest⟩ := List.nodup_cons.1 distinct
    rw [List.map_cons, lookup_cons_eq_ite]
    rcases List.mem_cons.1 member with rfl | member
    · rw [if_pos rfl]
    · rw [if_neg, ih distinctRest member]
      intro same
      exact fresh (same ▸ List.mem_map_of_mem member)

/-- A selection whose results have the keys of what they are selected from keeps the keys' order. -/
theorem map_filterMap_sublist {select : α → Option β} {key : α → κ} {resultKey : β → κ}
    (kept : ∀ item result, select item = some result → resultKey result = key item)
    (items : List α) : ((items.filterMap select).map resultKey).Sublist (items.map key) := by
  induction items with
  | nil => exact .slnil
  | cons item rest ih =>
    rw [List.filterMap_cons]
    cases found : select item with
    | none => exact ih.cons _
    | some result =>
      rw [List.map_cons, List.map_cons, kept item result found]
      exact ih.cons_cons _

/-- Selecting from the items of some keys gives the results of these keys, if it keeps keys. -/
theorem filterMap_filter_key {select : α → Option β} {key : α → κ} {resultKey : β → κ}
    (kept : ∀ item result, select item = some result → resultKey result = key item)
    (wanted : κ → Prop) [DecidablePred wanted] (items : List α) :
    (items.filter fun item => wanted (key item)).filterMap select =
      (items.filterMap select).filter fun result => wanted (resultKey result) := by
  rw [List.filterMap_filter, List.filter_filterMap]
  refine List.filterMap_congr fun item _ => ?_
  cases found : select item with
  | none => simp
  | some result => simp [Option.filter, kept item result found]

/-- A part of items with distinct keys consists of all items that have its keys. -/
theorem eq_filter_key_of_sublist [DecidableEq κ] {key : α → κ} {part items : List α}
    (sub : part.Sublist items) (distinct : (items.map key).Nodup) :
    part = items.filter fun item => key item ∈ part.map key := by
  induction sub with
  | slnil => rfl
  | @cons part items item sub ih =>
    obtain ⟨fresh, distinctRest⟩ := List.nodup_cons.1 distinct
    have outside : key item ∉ part.map key := fun inside => fresh ((sub.map key).subset inside)
    rw [List.filter_cons_of_neg (by simpa only [decide_eq_true_eq] using outside)]
    exact ih distinctRest
  | @cons_cons part items item sub ih =>
    obtain ⟨fresh, distinctRest⟩ := List.nodup_cons.1 distinct
    rw [List.filter_cons_of_pos (by simp)]
    refine congrArg (item :: ·) ((ih distinctRest).trans (List.filter_congr fun other member => ?_))
    have apart : key other ≠ key item := fun same => fresh (same ▸ List.mem_map_of_mem member)
    simp only [List.map_cons, List.mem_cons, apart, false_or]

theorem flatMap_filter_eq (keep : α → Bool) (expand : α → List β) (items : List α) :
    (items.filter keep).flatMap expand =
      items.flatMap fun item => if keep item then expand item else [] := by
  induction items with
  | nil => rfl
  | cons item rest ih =>
    rw [List.filter_cons, List.flatMap_cons]
    split
    · rw [List.flatMap_cons, ih]
    · rw [ih, List.nil_append]

/-- Distinct items ascend by their positions. -/
theorem pairwise_idxOf_lt [DecidableEq α] {items : List α} (distinct : items.Nodup) :
    items.Pairwise fun first second => items.idxOf first < items.idxOf second := by
  rw [List.pairwise_iff_getElem]
  intro first second firstBound secondBound ascending
  rwa [distinct.idxOf_getElem, distinct.idxOf_getElem]

end Fieldwise
