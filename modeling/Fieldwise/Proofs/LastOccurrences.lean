import Mathlib.Data.List.Dedup
import Mathlib.Data.List.Nodup

/-! # Last occurrences

`List.dedup` keeps the last occurrence of every item. It does not matter at which stage the others
are left out (`dedup_flatMap_dedup`, `dedup_dedup_flatMap`). An item that is expanded to itself and
some of those behind it adds nothing but itself (`dedup_flatMap_of_sublist`). If every item of two
lists is expanded to a part of its own, the last occurrences in their expansions are the same only
if the lists are (`OwnParts.eq_of_dedup_flatMap_eq`). -/

namespace Fieldwise

variable {α β : Type}

/-! ## Leaving out repeats at different stages -/

theorem dedup_append_dedup [DecidableEq α] (first second : List α) :
    (first ++ second.dedup).dedup = (first ++ second).dedup := by
  rw [List.dedup_append, List.dedup_append, List.dedup_idem]

theorem dedup_dedup_append [DecidableEq α] (first second : List α) :
    (first.dedup ++ second).dedup = (first ++ second).dedup := by
  induction first with
  | nil => rfl
  | cons item rest ih =>
    by_cases again : item ∈ rest
    · have later : item ∈ rest ++ second := List.mem_append_left _ again
      rw [List.dedup_cons_of_mem again, ih, List.cons_append, List.dedup_cons_of_mem later]
    · rw [List.dedup_cons_of_notMem again, List.cons_append, List.cons_append, List.dedup_cons',
        List.dedup_cons', ih]

/-- Repeats in the items that are expanded may be left out. -/
theorem dedup_dedup_flatMap [DecidableEq α] [DecidableEq β] (items : List α)
    (expand : α → List β) : (items.dedup.flatMap expand).dedup = (items.flatMap expand).dedup := by
  induction items with
  | nil => rfl
  | cons item rest ih =>
    rw [List.flatMap_cons]
    by_cases again : item ∈ rest
    · have inside : expand item ⊆ rest.flatMap expand := fun part member =>
        List.mem_flatMap.2 ⟨item, again, member⟩
      rw [List.dedup_cons_of_mem again, ih, inside.dedup_append_right]
    · rw [List.dedup_cons_of_notMem again, List.flatMap_cons, List.dedup_append, ih,
        ← List.dedup_append]

/-- Repeats in what items are expanded to may be left out. -/
theorem dedup_flatMap_dedup [DecidableEq β] (items : List α) (expand : α → List β) :
    (items.flatMap fun item => (expand item).dedup).dedup = (items.flatMap expand).dedup := by
  induction items with
  | nil => rfl
  | cons item rest ih =>
    rw [List.flatMap_cons, List.flatMap_cons, dedup_dedup_append, List.dedup_append, ih,
      ← List.dedup_append]

theorem dedup_flatMap_dedup_flatMap [DecidableEq α] [DecidableEq β] {γ : Type} (items : List γ)
    (order : γ → List α) (expand : α → List β) :
    (items.flatMap fun item => ((order item).flatMap expand).dedup).dedup =
      ((items.flatMap order).dedup.flatMap expand).dedup := by
  rw [dedup_flatMap_dedup, dedup_dedup_flatMap, List.flatMap_assoc]

def firstOccurrences [DecidableEq α] (items : List α) : List α :=
  items.reverse.dedup.reverse

theorem dedup_filter [DecidableEq α] (keep : α → Bool) (items : List α) :
    (items.filter keep).dedup = items.dedup.filter keep := by
  induction items with
  | nil => rfl
  | cons item rest ih =>
    by_cases kept : keep item
    · rw [List.filter_cons_of_pos kept, List.dedup_cons', List.dedup_cons', ih]
      by_cases again : item ∈ rest.dedup
      · rw [if_pos again, if_pos (List.mem_filter.2 ⟨again, kept⟩)]
      · have gone : item ∉ rest.dedup.filter keep := fun inside => again (List.mem_filter.1 inside).1
        rw [if_neg again, if_neg gone, List.filter_cons_of_pos kept]
    · rw [List.filter_cons_of_neg kept, ih, List.dedup_cons']
      split
      · rfl
      · rw [List.filter_cons_of_neg kept]

/-! ## Orders within an order -/

/-- If every item of a list is expanded to itself and some of those behind it, only the list is left
of all the expansions. -/
theorem dedup_flatMap_of_sublist [DecidableEq α] {items : List α} (distinct : items.Nodup)
    {order : α → List α}
    (within : ∀ item ∈ items, ∃ rest, order item = item :: rest ∧ (item :: rest).Sublist items) :
    (items.flatMap order).dedup = items := by
  induction items with
  | nil => rfl
  | cons first others ih =>
    obtain ⟨fresh, distinctOthers⟩ := List.nodup_cons.1 distinct
    have withinOthers : ∀ item ∈ others, ∃ rest, order item = item :: rest ∧
        (item :: rest).Sublist others := by
      intro item member
      obtain ⟨rest, isOrder, kept⟩ := within item (List.mem_cons_of_mem _ member)
      refine ⟨rest, isOrder, ?_⟩
      cases kept with
      | cons _ later => exact later
      | cons_cons _ _ => exact absurd member fresh
    have whole := ih distinctOthers withinOthers
    have same : ∀ item, item ∈ others.flatMap order ↔ item ∈ others := fun item => by
      rw [← List.mem_dedup, whole]
    obtain ⟨rest, isOrder, kept⟩ := within first List.mem_cons_self
    have inside : rest ⊆ others := (List.cons_sublist_cons.1 kept).subset
    have repeated : rest ⊆ others.flatMap order := fun item member =>
      (same item).2 (inside member)
    have once : first ∉ rest ++ others.flatMap order := by
      intro member
      rcases List.mem_append.1 member with member | member
      · exact fresh (inside member)
      · exact fresh ((same first).1 member)
    rw [List.flatMap_cons, isOrder, List.cons_append, List.dedup_cons_of_notMem once,
      repeated.dedup_append_right, whole]

/-! ## Items that are expanded to something of their own -/

theorem eq_of_map_eq {image : α → β} {first second : List α}
    (injective : ∀ item ∈ first, ∀ other ∈ second, image item = image other → item = other)
    (same : first.map image = second.map image) : first = second := by
  induction first generalizing second with
  | nil => exact (List.map_eq_nil_iff.1 same.symm).symm
  | cons item rest ih =>
    obtain ⟨other, others, rfl, sameItem, sameRest⟩ := List.map_eq_cons_iff.1 same.symm
    rw [injective item List.mem_cons_self other List.mem_cons_self sameItem.symm]
    refine congrArg (other :: ·) (ih (fun item member other otherIn => ?_) sameRest.symm)
    exact injective item (List.mem_cons_of_mem _ member) other (List.mem_cons_of_mem _ otherIn)

/-- Among some items every item is expanded to a part of its own, and maybe to more. -/
structure OwnParts (among : List α) (expand : α → List β) (part : α → β) : Prop where
  mem : ∀ item ∈ among, part item ∈ expand item
  eq : ∀ item ∈ among, ∀ other ∈ among, part item ∈ expand other → other = item

namespace OwnParts

variable {among items : List α} {expand : α → List β} {part : α → β}

theorem injective (own : OwnParts among expand part) {item other : α} (member : item ∈ among)
    (otherIn : other ∈ among) (same : part item = part other) : item = other := by
  refine (own.eq item member other otherIn ?_).symm
  rw [same]
  exact own.mem other otherIn

/-- Among the own parts of all items, the expansion of an item has only its own part. -/
theorem dedup_filter_expand [DecidableEq β] (own : OwnParts among expand part) {item : α}
    (member : item ∈ among) :
    ((expand item).filter (· ∈ among.map part)).dedup = [part item] := by
  have alone : ∀ kept ∈ (expand item).filter (· ∈ among.map part), kept = part item := by
    intro kept inside
    obtain ⟨inside, isOwn⟩ := List.mem_filter.1 inside
    obtain ⟨other, otherIn, rfl⟩ := List.mem_map.1 (of_decide_eq_true isOwn)
    rw [own.eq other otherIn item member inside]
  have present : part item ∈ (expand item).filter (· ∈ among.map part) :=
    List.mem_filter.2 ⟨own.mem item member, decide_eq_true (List.mem_map_of_mem member)⟩
  rw [List.eq_replicate_of_mem alone]
  exact List.replicate_dedup (Nat.ne_of_gt (List.length_pos_of_mem present))

/-- Of the last occurrences in the expansions of some items, the own parts of the items are left. -/
theorem filter_dedup_flatMap [DecidableEq β] (own : OwnParts among expand part)
    (distinct : items.Nodup) (sub : items ⊆ among) :
    (items.flatMap expand).dedup.filter (· ∈ among.map part) = items.map part := by
  have distinctParts : (items.map part).Nodup := distinct.map_on
    fun item member other otherIn => own.injective (sub member) (sub otherIn)
  calc (items.flatMap expand).dedup.filter (· ∈ among.map part)
      = (items.flatMap fun item => (expand item).filter (· ∈ among.map part)).dedup := by
        rw [← dedup_filter, List.filter_flatMap]
    _ = (items.flatMap fun item => ((expand item).filter (· ∈ among.map part)).dedup).dedup :=
        (dedup_flatMap_dedup _ _).symm
    _ = (items.flatMap fun item => [part item]).dedup := congrArg List.dedup
        (List.flatMap_congr fun item member => own.dedup_filter_expand (sub member))
    _ = (items.map part).dedup := by rw [← List.map_eq_flatMap]
    _ = items.map part := distinctParts.dedup

/-- The last occurrences in the expansions show the order of the items. -/
theorem eq_of_dedup_flatMap_eq [DecidableEq β] (own : OwnParts among expand part)
    {first second : List α} (distinctFirst : first.Nodup) (distinctSecond : second.Nodup)
    (firstIn : first ⊆ among) (secondIn : second ⊆ among)
    (same : (first.flatMap expand).dedup = (second.flatMap expand).dedup) : first = second := by
  have parts : first.map part = second.map part := by
    rw [← own.filter_dedup_flatMap distinctFirst firstIn, same,
      own.filter_dedup_flatMap distinctSecond secondIn]
  exact eq_of_map_eq (fun item member other otherIn =>
    own.injective (firstIn member) (secondIn otherIn)) parts

end OwnParts

end Fieldwise
