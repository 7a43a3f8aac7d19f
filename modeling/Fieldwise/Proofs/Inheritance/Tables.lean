import Fieldwise.Extraction
import Fieldwise.Proofs.KeyedLists
import Fieldwise.Proofs.LastOccurrences
import Mathlib.Data.List.Induction

/-! # Tables that are laid over each other

A table is a list of items that are known by their keys. An item that is put into it takes the place
of the one of its key, or comes last. So in tables that are laid over each other the last item of a
key counts (`find?_overlayBy`, `find?_overlays`), and a key stands where the lowest table puts it
(`keysFromEnd_overlays`). The fields of a record type are such a table. -/

namespace Fieldwise

variable {α β κ : Type} [DecidableEq κ]

/-- Puts an item into a table; one of the same key gives up its place. -/
def putBy (key : α → κ) (new : α) : List α → List α
  | [] => [new]
  | old :: rest => if key old = key new then new :: rest else old :: putBy key new rest

def overlayBy (key : α → κ) (lower upper : List α) : List α :=
  upper.foldl (fun done new => putBy key new done) lower

/-- Lays tables over each other, the last one on top. -/
def overlays (key : α → κ) (tables : List (List α)) : List α :=
  tables.foldl (overlayBy key) []

variable {key : α → κ} {wanted : κ}

/-! ## Lookups -/

theorem find?_key_cons (item : α) (rest : List α) :
    (item :: rest).find? (key · == wanted) =
      if key item = wanted then some item else rest.find? (key · == wanted) := by
  rw [List.find?_cons]
  split
  · rename_i same
    rw [if_pos (beq_iff_eq.1 same)]
  · rename_i differ
    rw [if_neg (beq_eq_false_iff_ne.1 differ)]

theorem find?_putBy (new : α) (table : List α) :
    (putBy key new table).find? (key · == wanted) =
      if key new = wanted then some new else table.find? (key · == wanted) := by
  induction table with
  | nil => exact find?_key_cons new []
  | cons old rest ih =>
    rw [putBy]
    split
    · rename_i same
      rw [find?_key_cons, find?_key_cons, same]
      split <;> rfl
    · rename_i differ
      rw [find?_key_cons, find?_key_cons, ih]
      split
      · rename_i found
        rw [if_neg fun same => differ (found.trans same.symm)]
      · rfl

/-- The last item of a key in the upper table counts, or the one in the lower table. -/
theorem find?_overlayBy (lower upper : List α) :
    (overlayBy key lower upper).find? (key · == wanted) =
      (upper.reverse.find? (key · == wanted)).or (lower.find? (key · == wanted)) := by
  induction upper generalizing lower with
  | nil => rfl
  | cons new rest ih =>
    have step : overlayBy key lower (new :: rest) = overlayBy key (putBy key new lower) rest := rfl
    rw [step, ih, find?_putBy, List.reverse_cons, List.find?_append, find?_key_cons,
      Option.or_assoc]
    split <;> rfl

/-! ## Keys are distinct -/

theorem mem_keys_putBy {new : α} {table : List α} {name : κ}
    (member : name ∈ (putBy key new table).map key) : name = key new ∨ name ∈ table.map key := by
  induction table with
  | nil => exact .inl (List.mem_singleton.1 member)
  | cons old rest ih =>
    rw [putBy] at member
    split at member
    · rename_i same
      rw [List.map_cons, ← same] at member
      exact .inr member
    · rcases List.mem_cons.1 member with rfl | inside
      · exact .inr List.mem_cons_self
      · exact (ih inside).imp_right (List.mem_cons_of_mem _)

theorem nodup_putBy {new : α} {table : List α} (distinct : (table.map key).Nodup) :
    ((putBy key new table).map key).Nodup := by
  induction table with
  | nil => exact List.nodup_singleton _
  | cons old rest ih =>
    obtain ⟨fresh, distinctRest⟩ := List.nodup_cons.1 distinct
    rw [putBy]
    split
    · rename_i same
      rw [List.map_cons, ← same]
      exact distinct
    · rename_i differ
      refine List.nodup_cons.2 ⟨fun member => ?_, ih distinctRest⟩
      rcases mem_keys_putBy member with same | inside
      · exact differ same
      · exact fresh inside

theorem nodup_overlayBy {lower upper : List α} (distinct : (lower.map key).Nodup) :
    ((overlayBy key lower upper).map key).Nodup := by
  induction upper generalizing lower with
  | nil => exact distinct
  | cons new rest ih => exact ih (nodup_putBy distinct)

theorem nodup_overlays (tables : List (List α)) : ((overlays key tables).map key).Nodup := by
  induction tables using List.reverseRecOn with
  | nil => exact List.nodup_nil
  | append_singleton tables table ih =>
    rw [overlays, List.foldl_append]
    exact nodup_overlayBy ih

/-- Among distinct keys the last item of a key is the first. -/
theorem find?_reverse_of_nodup {table : List α} (distinct : (table.map key).Nodup) :
    table.reverse.find? (key · == wanted) = table.find? (key · == wanted) := by
  have reversed : (table.reverse.map key).Nodup := by
    rw [List.map_reverse]
    exact List.nodup_reverse.2 distinct
  ext item
  rw [find?_key_eq_some_iff reversed, find?_key_eq_some_iff distinct, List.mem_reverse]

/-- Of tables of distinct keys the last one that has a key counts for it. -/
theorem find?_overlays {tables : List (List α)}
    (distinct : ∀ table ∈ tables, (table.map key).Nodup) :
    (overlays key tables).find? (key · == wanted) =
      tables.reverse.findSome? (·.find? (key · == wanted)) := by
  induction tables using List.reverseRecOn with
  | nil => rfl
  | append_singleton tables table ih =>
    obtain ⟨others, last⟩ := List.forall_mem_append.1 distinct
    have step : overlays key (tables ++ [table]) = overlayBy key (overlays key tables) table := by
      rw [overlays, List.foldl_append]
      rfl
    rw [step, find?_overlayBy, ih others, List.reverse_append, List.reverse_singleton,
      List.singleton_append, List.findSome?_cons,
      find?_reverse_of_nodup (last table (List.mem_singleton_self table))]
    cases table.find? (key · == wanted) <;> rfl

/-! ## Keys in order -/

/-- The keys of a table, the last one first. -/
def keysFromEnd (key : α → κ) (table : List α) : List κ :=
  (table.map key).reverse

theorem keys_putBy (new : α) (table : List α) :
    (putBy key new table).map key =
      if key new ∈ table.map key then table.map key else table.map key ++ [key new] := by
  induction table with
  | nil => rfl
  | cons old rest ih =>
    rw [putBy, List.map_cons]
    by_cases same : key old = key new
    · rw [if_pos same, if_pos (List.mem_cons.2 (.inl same.symm)), List.map_cons, same]
    · have other : key new ∈ key old :: rest.map key ↔ key new ∈ rest.map key := by
        rw [List.mem_cons, or_iff_right (Ne.symm same)]
      rw [if_neg same, List.map_cons, ih]
      by_cases inside : key new ∈ rest.map key
      · rw [if_pos inside, if_pos (other.2 inside)]
      · rw [if_neg inside, if_neg (fun member => inside (other.1 member)), List.cons_append]

theorem keysFromEnd_putBy {new : α} {table : List α} (distinct : (table.map key).Nodup) :
    keysFromEnd key (putBy key new table) = (key new :: keysFromEnd key table).dedup := by
  have distinctFromEnd : (keysFromEnd key table).Nodup := List.nodup_reverse.2 distinct
  rw [keysFromEnd, keys_putBy]
  by_cases inside : key new ∈ table.map key
  · have insideFromEnd : key new ∈ keysFromEnd key table := List.mem_reverse.2 inside
    rw [if_pos inside, List.dedup_cons_of_mem insideFromEnd, distinctFromEnd.dedup]
    rfl
  · have outside : key new ∉ keysFromEnd key table := fun member =>
      inside (List.mem_reverse.1 member)
    rw [if_neg inside, List.dedup_cons_of_notMem outside, distinctFromEnd.dedup,
      List.reverse_append]
    rfl

theorem keysFromEnd_overlayBy {lower : List α} (distinct : (lower.map key).Nodup)
    (upper : List α) :
    keysFromEnd key (overlayBy key lower upper) =
      (keysFromEnd key upper ++ keysFromEnd key lower).dedup := by
  induction upper generalizing lower with
  | nil => exact (List.nodup_reverse.2 distinct).dedup.symm
  | cons new rest ih =>
    have step : overlayBy key lower (new :: rest) = overlayBy key (putBy key new lower) rest := rfl
    have keys : keysFromEnd key (new :: rest) = keysFromEnd key rest ++ [key new] := by
      rw [keysFromEnd, List.map_cons, List.reverse_cons]
      rfl
    rw [step, ih (nodup_putBy distinct), keysFromEnd_putBy distinct, dedup_append_dedup, keys,
      List.append_assoc]
    rfl

/-- The keys of tables that are laid over each other, from the end, are those of all the tables,
without all but the last occurrences. -/
theorem keysFromEnd_overlays (tables : List (List α)) :
    keysFromEnd key (overlays key tables) =
      (tables.reverse.flatMap (keysFromEnd key)).dedup := by
  induction tables using List.reverseRecOn with
  | nil => rfl
  | append_singleton tables table ih =>
    have step : overlays key (tables ++ [table]) = overlayBy key (overlays key tables) table := by
      rw [overlays, List.foldl_append]
      rfl
    rw [step, keysFromEnd_overlayBy (nodup_overlays tables), ih, dedup_append_dedup,
      List.reverse_append]
    rfl

/-! ## The fields of record types are tables -/

namespace RecordType

theorem putField_eq (new : RecordField) (fields : List RecordField) :
    putField new fields = putBy (·.field.name) new fields := by
  induction fields with
  | nil => rfl
  | cons old rest ih => rw [putField, putBy, ih]

theorem overlay_eq (fields upper : List RecordField) :
    overlay fields upper = overlayBy (·.field.name) fields upper := by
  induction upper generalizing fields with
  | nil => rfl
  | cons new rest ih =>
    have step : overlay fields (new :: rest) = overlay (putField new fields) rest := rfl
    rw [step, ih, putField_eq]
    rfl

/-- What a class takes over from its bases are their tables, those of later bases below. -/
theorem inherited_eq (records : List RecordType) (bases : List Source.Expr) :
    (inherited records bases).1 = overlays (·.field.name)
      ((bases.filterMap (base? records)).reverse.map (·.fields)) := by
  rw [overlays, List.foldl_map]
  exact congrArg (fun step => List.foldl step [] _)
    (funext fun done => funext fun record => overlay_eq done record.fields)

end RecordType

end Fieldwise
