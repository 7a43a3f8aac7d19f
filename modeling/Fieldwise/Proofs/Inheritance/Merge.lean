import Mathlib.Algebra.GroupWithZero.Nat
import Mathlib.Algebra.Order.BigOperators.Group.List
import Mathlib.Algebra.Order.Group.Nat
import Mathlib.Data.List.Nodup

/-! # Merging precedence orders

Method resolution merges several orders: it takes, again and again, the first head that no order
has behind its own head, until nothing is left. The merge keeps every order (`sublist_of_merge?`),
holds nothing twice (`nodup_of_merge?`) and nothing else (`exists_of_mem_merge?`). So a search along
the merge of the orders of some parents finds what the search along the parents alone finds, if no
order has something that its parent has not (`findSome?_merged`). -/

namespace Fieldwise.Precedence

variable {α β : Type}

section

variable [DecidableEq α]

/-- The first head that stands behind the head of no order. -/
def next? (orders : List (List α)) : Option α :=
  (orders.filterMap List.head?).find? fun item => orders.all fun order => item ∉ order.tail

/-- An order without an item at its front. -/
def dropHead (item : α) (order : List α) : List α :=
  if order.head? = some item then order.tail else order

/-- All orders without an item at their fronts. -/
def advance (orders : List (List α)) (item : α) : List (List α) :=
  orders.map (dropHead item)

theorem length_dropHead_le (item : α) (order : List α) :
    (dropHead item order).length ≤ order.length := by
  rw [dropHead]
  split
  · exact order.tail_sublist.length_le
  · exact Nat.le_refl _

/-- The item that is taken next is the head of some order, and stands behind the head of none. -/
theorem next?_eq_some {orders : List (List α)} {item : α} (chosen : next? orders = some item) :
    (∃ order ∈ orders, order.head? = some item) ∧ ∀ order ∈ orders, item ∉ order.tail := by
  constructor
  · exact List.mem_filterMap.1 (List.mem_of_find?_eq_some chosen)
  · simpa using List.find?_some chosen

theorem advance_shorter {orders : List (List α)} {item : α} (chosen : next? orders = some item) :
    ((advance orders item).map List.length).sum < (orders.map List.length).sum := by
  obtain ⟨⟨order, member, head⟩, -⟩ := next?_eq_some chosen
  rw [advance, List.map_map]
  refine List.sum_lt_sum _ _ (fun order _ => length_dropHead_le item order) ⟨order, member, ?_⟩
  rw [Function.comp_apply, dropHead, if_pos head]
  cases order with
  | nil => cases head
  | cons first rest => exact Nat.lt_succ_self _

def merge? (orders : List (List α)) : Option (List α) :=
  match _chosen : next? orders with
  | none => if orders.all List.isEmpty then some [] else none
  | some item => (merge? (advance orders item)).map (item :: ·)
termination_by (orders.map List.length).sum
decreasing_by exact advance_shorter _chosen

theorem merge?_eq_some {orders : List (List α)} {merged : List α}
    (found : merge? orders = some merged) :
    (merged = [] ∧ ∀ order ∈ orders, order = []) ∨ ∃ item rest, merged = item :: rest ∧
      next? orders = some item ∧ merge? (advance orders item) = some rest := by
  rw [merge?] at found
  split at found
  · split at found
    · rename_i empty
      cases found
      refine .inl ⟨rfl, fun order member => ?_⟩
      exact List.isEmpty_iff.1 (List.all_eq_true.1 empty order member)
    · cases found
  · rename_i item chosen
    obtain ⟨rest, further, rfl⟩ := Option.map_eq_some_iff.1 found
    exact .inr ⟨item, rest, rfl, chosen, further⟩

/-- The merge keeps every order. -/
theorem sublist_of_merge? {orders : List (List α)} {merged order : List α}
    (found : merge? orders = some merged) (member : order ∈ orders) : order.Sublist merged := by
  induction merged generalizing orders order with
  | nil =>
    rcases merge?_eq_some found with ⟨-, empty⟩ | ⟨_, _, same, _⟩
    · rw [empty order member]
    · cases same
  | cons item rest ih =>
    rcases merge?_eq_some found with ⟨none, _⟩ | ⟨_, _, same, _, further⟩
    · cases none
    · cases same
      have kept := ih further (List.mem_map_of_mem member)
      rw [dropHead] at kept
      split at kept
      · rename_i head
        cases order with
        | nil => cases head
        | cons first others =>
          obtain rfl := Option.some.inj head
          exact kept.cons_cons first
      · exact kept.cons item

/-- Everything in the merge stands in some order. -/
theorem exists_of_mem_merge? {orders : List (List α)} {merged : List α}
    (found : merge? orders = some merged) {item : α} (member : item ∈ merged) :
    ∃ order ∈ orders, item ∈ order := by
  induction merged generalizing orders with
  | nil => cases member
  | cons first rest ih =>
    rcases merge?_eq_some found with ⟨none, _⟩ | ⟨_, _, same, chosen, further⟩
    · cases none
    · cases same
      rcases List.mem_cons.1 member with rfl | member
      · obtain ⟨⟨order, orderIn, head⟩, -⟩ := next?_eq_some chosen
        exact ⟨order, orderIn, List.mem_of_mem_head? head⟩
      · obtain ⟨shorter, shorterIn, inside⟩ := ih further member
        obtain ⟨order, orderIn, rfl⟩ := List.mem_map.1 shorterIn
        refine ⟨order, orderIn, ?_⟩
        rw [dropHead] at inside
        split at inside
        · exact List.mem_of_mem_tail inside
        · exact inside

/-- Nothing is taken twice: what is taken stands behind no head, so it is gone afterwards. -/
theorem nodup_of_merge? {orders : List (List α)} {merged : List α}
    (found : merge? orders = some merged) : merged.Nodup := by
  induction merged generalizing orders with
  | nil => exact List.nodup_nil
  | cons first rest ih =>
    rcases merge?_eq_some found with ⟨none, _⟩ | ⟨_, _, same, chosen, further⟩
    · cases none
    · cases same
      refine List.nodup_cons.2 ⟨fun member => ?_, ih further⟩
      obtain ⟨-, behindNone⟩ := next?_eq_some chosen
      obtain ⟨shorter, shorterIn, inside⟩ := exists_of_mem_merge? further member
      obtain ⟨order, orderIn, rfl⟩ := List.mem_map.1 shorterIn
      rw [dropHead] at inside
      split at inside
      · exact behindNone order orderIn inside
      · rename_i noHead
        cases order with
        | nil => cases inside
        | cons other others =>
          rcases List.mem_cons.1 inside with rfl | inside
          · exact noHead rfl
          · exact behindNone _ orderIn inside

end

/-! ## Searching along a merge -/

/-- Where nothing stands twice, an order that holds an item begins with it or before it. -/
theorem eq_of_first {before after rest : List α} {item parent : α}
    (distinct : (before ++ item :: after).Nodup)
    (kept : (parent :: rest).Sublist (before ++ item :: after)) (inside : item ∈ parent :: rest)
    (notBefore : parent ∉ before) : parent = item := by
  obtain ⟨first, second, same, firstKept, secondKept⟩ := List.sublist_append_iff.1 kept
  cases first with
  | cons other others =>
    cases same
    exact absurd (firstKept.subset List.mem_cons_self) notBefore
  | nil =>
    rw [List.nil_append] at same
    subst same
    cases secondKept with
    | cons_cons _ _ => rfl
    | cons _ later =>
      have behind : item ∉ after := (List.nodup_cons.1 distinct.of_append_right).1
      exact absurd (later.subset inside) behind

/-- The first thing that is found along a merge is found along the parents. The search along the
merge stops at an item of the order of some parent; the parent has something, too, and stands no
later than the item, so the two are one. -/
theorem findSome?_merged {find : α → Option β} {parents merged : List α}
    (distinct : merged.Nodup) (kept : parents.Sublist merged)
    (origin : ∀ item ∈ merged, (find item).isSome → ∃ parent ∈ parents, ∃ rest,
      (parent :: rest).Sublist merged ∧ item ∈ parent :: rest ∧ (find parent).isSome) :
    merged.findSome? find = parents.findSome? find := by
  cases found : merged.findSome? find with
  | none =>
    rw [List.findSome?_eq_none_iff] at found
    exact (List.findSome?_eq_none_iff.2 fun parent member => found parent (kept.subset member)).symm
  | some value =>
    obtain ⟨before, item, after, rfl, isFound, noneBefore⟩ := List.findSome?_eq_some_iff.1 found
    obtain ⟨parent, parentIn, rest, orderKept, inside, something⟩ :=
      origin item (List.mem_append_right _ List.mem_cons_self) (by rw [isFound]; rfl)
    have notBefore : parent ∉ before := by
      intro member
      rw [noneBefore parent member] at something
      cases something
    obtain rfl := eq_of_first distinct orderKept inside notBefore
    -- The parents before this one stand before it in the merge, where nothing is found.
    obtain ⟨first, second, rfl, firstKept, secondKept⟩ := List.sublist_append_iff.1 kept
    have noneFirst : first.findSome? find = none :=
      List.findSome?_eq_none_iff.2 fun other member => noneBefore other (firstKept.subset member)
    rw [List.findSome?_append, noneFirst, Option.none_or]
    have inSecond : parent ∈ second :=
      (List.mem_append.1 parentIn).resolve_left fun member => notBefore (firstKept.subset member)
    cases secondKept with
    | cons_cons _ _ => rw [List.findSome?_cons, isFound]
    | cons _ later =>
      have behind : parent ∉ after := (List.nodup_cons.1 distinct.of_append_right).1
      exact absurd (later.subset inSecond) behind

end Fieldwise.Precedence
