import Fieldwise.Proofs.Scope.Emission
import Fieldwise.Report
import Mathlib.Data.List.SplitBy

/-! # Reports lose nothing

The operations of a generation can be read back from its report: a run of rows with one key is an
operation, and a row without fields stands for no correspondences. That works because a generation
has no two operations of one key, so the runs are those of the operations, and because every
operation has a row. For the same reason the summary has one row for each operation
(`Generation.report_lossless`). -/

namespace Fieldwise

/-! ## Reading a report -/

/-- The row that some cells are. A row has all three cells of a correspondence or none. -/
def ReportRow.ofCells? : List (Option String) → Option ReportRow
  | [some kind, some target, some source, none, none, none] => some ⟨⟨kind, target, source⟩, none⟩
  | [some kind, some target, some source, some sourceField, some targetField, some matchKind] =>
    some ⟨⟨kind, target, source⟩, some ⟨sourceField, targetField, matchKind⟩⟩
  | _ => none

/-- Whether two rows belong to one operation. -/
def ReportRow.sameKey (first second : ReportRow) : Bool :=
  first.key == second.key

def RowMatch.correspondence? (matched : RowMatch) : Option Correspondence :=
  (MatchKind.ofValue? matched.matchKind).map fun kind =>
    ⟨matched.sourceField, matched.targetField, kind⟩

/-- The operation that a run of rows describes. -/
def Operation.ofRun? (rows : List ReportRow) : Option Operation := do
  let key ← rows.head?.map (·.key)
  let kind ← OperationKind.ofValue? key.kind
  let correspondences ← (rows.filterMap (·.matched)).mapM RowMatch.correspondence?
  return ⟨kind, key.sourceSchema, key.targetSchema, correspondences⟩

/-- The operations that a table describes, run by run. -/
def Table.operations? (table : Table) : Option (List Operation) := do
  let rows ← table.rows.mapM ReportRow.ofCells?
  (rows.splitBy ReportRow.sameKey).mapM Operation.ofRun?

theorem MatchKind.ofValue?_value (kind : MatchKind) : ofValue? kind.value = some kind := by
  cases kind <;> decide

theorem OperationKind.ofValue?_value (kind : OperationKind) : ofValue? kind.value = some kind := by
  cases kind <;> decide

theorem OperationKind.value_injective : Function.Injective value := by
  intro first second same
  have read := ofValue?_value first
  rw [same, ofValue?_value] at read
  exact (Option.some.inj read).symm

theorem mapM_eq_some_map {α β : Type} {read : β → Option α} {write : α → β}
    (back : ∀ item, read (write item) = some item) (items : List α) :
    (items.map write).mapM read = some items := by
  induction items with
  | nil => rfl
  | cons item rest ih =>
    rw [List.map_cons, List.mapM_cons, back, ih]
    rfl

/-- The rows of a report are read back from its table. -/
theorem mapM_ofCells?_ofRows (rows : List ReportRow) :
    (Table.ofRows rows).rows.mapM ReportRow.ofCells? = some rows := by
  refine mapM_eq_some_map (fun row => ?_) rows
  obtain ⟨key, matched⟩ := row
  cases matched <;> rfl

/-! ## Runs of rows -/

/-- Lists that each have one key are found again where the key changes, if they have distinct keys. -/
theorem splitBy_flatMap_of_key {α β κ : Type} [DecidableEq κ] {expand : α → List β}
    {same : β → β → Bool} {name : α → κ} {key : β → κ}
    (same_iff : ∀ first second, same first second = true ↔ key first = key second)
    (some_item : ∀ item, expand item ≠ [])
    (keyed : ∀ item, ∀ part ∈ expand item, key part = name item) {items : List α}
    (distinct : (items.map name).Nodup) :
    (items.flatMap expand).splitBy same = items.map expand := by
  rw [List.flatMap_def, List.splitBy_flatten]
  · rw [List.mem_map]
    rintro ⟨item, -, none⟩
    exact some_item item none
  · rw [List.forall_mem_map]
    intro item _
    refine (List.pairwise_of_forall_mem_list fun first firstIn second secondIn => ?_).isChain
    rw [same_iff, keyed item first firstIn, keyed item second secondIn]
  · rw [List.isChain_map]
    refine (List.pairwise_map.1 distinct).isChain.imp fun first second apart => ?_
    refine ⟨some_item first, some_item second, ?_⟩
    rw [Bool.eq_false_iff, ne_eq, same_iff, keyed first _ (List.getLast_mem _),
      keyed second _ (List.head_mem _)]
    exact apart

namespace Operation

theorem rows_ne_nil (operation : Operation) : operation.rows ≠ [] := by
  rw [rows]
  split
  · exact List.cons_ne_nil _ _
  · rename_i some_match
    rw [ne_eq, List.map_eq_nil_iff]
    exact some_match

theorem key_of_mem_rows (operation : Operation) :
    ∀ row ∈ operation.rows, row.key = operation.rowKey := by
  rw [rows]
  split
  · exact List.forall_mem_singleton.2 rfl
  · exact List.forall_mem_map.2 fun _ _ => rfl

/-- The rows of an operation name its correspondences in order. -/
theorem filterMap_matched_rows (operation : Operation) :
    operation.rows.filterMap (·.matched) = operation.correspondences.map fun correspondence =>
      ⟨correspondence.sourceField, correspondence.targetField, correspondence.kind.value⟩ := by
  rw [rows]
  split
  · rename_i none
    rw [none]
    rfl
  · rw [List.filterMap_map, ← List.filterMap_eq_map]
    rfl

/-- An operation is read back from its rows. -/
theorem ofRun?_rows (operation : Operation) : ofRun? operation.rows = some operation := by
  obtain ⟨first, rest, whole⟩ := List.exists_cons_of_ne_nil operation.rows_ne_nil
  have key : operation.rows.head?.map (·.key) = some operation.rowKey := by
    rw [whole, List.head?_cons, Option.map_some]
    exact congrArg some (operation.key_of_mem_rows first (whole ▸ List.mem_cons_self))
  have correspondences : (operation.rows.filterMap (·.matched)).mapM RowMatch.correspondence? =
      some operation.correspondences := by
    rw [filterMap_matched_rows]
    refine mapM_eq_some_map (fun correspondence => ?_) _
    rw [RowMatch.correspondence?, MatchKind.ofValue?_value]
    rfl
  rw [ofRun?, key, correspondences]
  simp only [Option.bind_some, bind, rowKey, OperationKind.ofValue?_value]
  rfl

end Operation

/-! ## The summary -/

namespace SummaryRow

/-- A key that has no count yet gets one at the end. -/
theorem tally_of_notMem {row : ReportRow} {done : List SummaryRow}
    (fresh : row.key ∉ done.map (·.key)) :
    tally row done = done ++ [⟨row.key, if row.matched.isSome then 1 else 0⟩] := by
  induction done with
  | nil => rfl
  | cons entry rest ih =>
    rw [List.map_cons, List.mem_cons, not_or] at fresh
    rw [tally, if_neg (Ne.symm fresh.1), ih fresh.2, List.cons_append]

/-- A further row of the last key adds to its count. -/
theorem tally_last {row : ReportRow} {done : List SummaryRow}
    (fresh : row.key ∉ done.map (·.key)) (count : Nat) :
    tally row (done ++ [⟨row.key, count⟩]) =
      done ++ [⟨row.key, count + if row.matched.isSome then 1 else 0⟩] := by
  induction done with
  | nil => rw [List.nil_append, tally, if_pos rfl, List.nil_append]
  | cons entry rest ih =>
    rw [List.map_cons, List.mem_cons, not_or] at fresh
    rw [List.cons_append, tally, if_neg (Ne.symm fresh.1), ih fresh.2, List.cons_append]

/-- Rows of the last key add to its count one by one. -/
theorem foldl_tally_last {key : RowKey} {rows : List ReportRow}
    (keyed : ∀ row ∈ rows, row.key = key) {done : List SummaryRow}
    (fresh : key ∉ done.map (·.key)) (count : Nat) :
    rows.foldl (fun done row => tally row done) (done ++ [⟨key, count⟩]) =
      done ++ [⟨key, count + rows.countP (·.matched.isSome)⟩] := by
  induction rows generalizing count with
  | nil => rfl
  | cons row rest ih =>
    obtain ⟨rfl, restKeyed⟩ := List.forall_mem_cons.1 keyed
    rw [List.foldl_cons, tally_last fresh, ih restKeyed, List.countP_cons, Nat.add_assoc,
      Nat.add_comm (List.countP _ _)]

end SummaryRow

namespace Operation

def summaryRow (operation : Operation) : SummaryRow :=
  ⟨operation.rowKey, operation.correspondences.length⟩

theorem countP_rows (operation : Operation) :
    operation.rows.countP (·.matched.isSome) = operation.correspondences.length := by
  rw [← List.length_filterMap_eq_countP, filterMap_matched_rows, List.length_map]

/-- The rows of an operation whose key has no count yet give it one row in the summary. -/
theorem foldl_tally_rows (operation : Operation) {done : List SummaryRow}
    (fresh : operation.rowKey ∉ done.map (·.key)) :
    operation.rows.foldl (fun done row => SummaryRow.tally row done) done =
      done ++ [operation.summaryRow] := by
  have keyed := operation.key_of_mem_rows
  have counted := operation.countP_rows
  obtain ⟨first, rest, whole⟩ := List.exists_cons_of_ne_nil operation.rows_ne_nil
  rw [whole] at keyed counted ⊢
  obtain ⟨firstKeyed, restKeyed⟩ := List.forall_mem_cons.1 keyed
  rw [List.foldl_cons, SummaryRow.tally_of_notMem (firstKeyed ▸ fresh), firstKeyed,
    SummaryRow.foldl_tally_last restKeyed fresh, summaryRow, ← counted, List.countP_cons,
    Nat.add_comm (List.countP _ _)]

end Operation

/-- The summary of operations of distinct keys has one row for each. -/
theorem summary_flatMap_rows {operations : List Operation}
    (distinct : (operations.map (·.rowKey)).Nodup) :
    summary (operations.flatMap Operation.rows) = operations.map (·.summaryRow) := by
  suffices counted : ∀ done : List SummaryRow,
      (∀ operation ∈ operations, operation.rowKey ∉ done.map (·.key)) →
        (operations.flatMap Operation.rows).foldl (fun done row => SummaryRow.tally row done) done =
          done ++ operations.map (·.summaryRow) from
    counted [] fun _ _ => List.not_mem_nil
  induction operations with
  | nil => exact fun done _ => (List.append_nil done).symm
  | cons operation rest ih =>
    intro done fresh
    obtain ⟨operationFresh, restFresh⟩ := List.forall_mem_cons.1 fresh
    obtain ⟨apart, restDistinct⟩ := List.nodup_cons.1 distinct
    rw [List.flatMap_cons, List.foldl_append, operation.foldl_tally_rows operationFresh,
      ih restDistinct, List.append_assoc]
    · rfl
    · intro other member
      rw [List.map_append, List.mem_append, not_or]
      refine ⟨restFresh other member, fun same => apart ?_⟩
      exact List.mem_map.2 ⟨other, member, List.mem_singleton.1 same⟩

/-! ## Reports of generations -/

namespace Generation

variable {options : GenerationOptions} {schemas : List Schema} {generation : Generation}

/-- The operations of a generation have distinct keys in its report. -/
theorem nodup_rowKeys (generated : Scope.generate options schemas = .ok generation) :
    (generation.operations.map (·.rowKey)).Nodup := by
  obtain ⟨distinct, same⟩ := Scope.operations_of_generate generated
  have keys : ((Scope.operations options (Scope.indexed options.marker schemas)).map (·.key)).Nodup :=
    (Scope.emission_operations distinct).distinct
  let rowKey (key : OperationKind × String × String) : RowKey := ⟨key.1.value, key.2.2, key.2.1⟩
  have injective : Function.Injective rowKey := by
    rintro ⟨kind, source, target⟩ ⟨kind', source', target'⟩ equal
    obtain ⟨value, rfl, rfl⟩ := (RowKey.mk.injEq _ _ _ _ _ _).mp equal
    obtain rfl : kind = kind' := OperationKind.value_injective value
    rfl
  rw [same]
  have mapped := keys.map injective
  rwa [List.map_map] at mapped

theorem rows_all (generation : Generation) :
    generation.rows none = generation.operations.flatMap Operation.rows :=
  congrArg (List.flatMap _) (List.filter_eq_self.2 fun _ _ => rfl)

theorem rows_of_kind (generation : Generation) (kind : OperationKind) :
    generation.rows (some kind) =
      (generation.operations.filter (·.kind = kind)).flatMap Operation.rows := by
  refine congrArg (List.flatMap _) (List.filter_congr fun operation _ => ?_)
  rw [Option.isNone_some, Bool.false_or, Option.some_beq_some, beq_eq_decide]
  exact decide_eq_decide.2 eq_comm

/-- The rows of a kind are those rows of the whole report that have its name. -/
theorem rows_of_kind_eq_filter (generation : Generation) (kind : OperationKind) :
    generation.rows (some kind) = (generation.rows none).filter (·.key.kind = kind.value) := by
  rw [rows_of_kind, rows_all, flatMap_filter_eq, List.filter_flatMap]
  refine List.flatMap_congr fun operation _ => ?_
  have named : ∀ row ∈ operation.rows,
      decide (row.key.kind = kind.value) = decide (operation.kind = kind) := by
    intro row member
    rw [operation.key_of_mem_rows row member]
    exact decide_eq_decide.2 OperationKind.value_injective.eq_iff
  rw [List.filter_congr named]
  by_cases same : operation.kind = kind <;> simp [same]

/-- From the report of a generation its operations are read back in order, and the summary counts the
correspondences of each of them, none included. The report and the summary of one kind are what the
whole ones say of it. -/
theorem report_lossless (generated : Scope.generate options schemas = .ok generation) :
    (Table.ofRows (generation.rows none)).operations? = some generation.operations ∧
    summary (generation.rows none) = generation.operations.map (fun operation =>
      ⟨operation.rowKey, operation.correspondences.length⟩) ∧
    ∀ kind : OperationKind,
      generation.rows (some kind) = (generation.rows none).filter (·.key.kind = kind.value) ∧
      summary (generation.rows (some kind)) =
        (summary (generation.rows none)).filter (·.key.kind = kind.value) := by
  have distinct := nodup_rowKeys generated
  have counted : summary (generation.rows none) = generation.operations.map (·.summaryRow) := by
    rw [rows_all, summary_flatMap_rows distinct]
  refine ⟨?_, counted, fun kind => ⟨generation.rows_of_kind_eq_filter kind, ?_⟩⟩
  · have runs : (generation.rows none).splitBy ReportRow.sameKey =
        generation.operations.map Operation.rows := by
      rw [rows_all]
      have same_iff (first second : ReportRow) : first.sameKey second = true ↔ first.key = second.key :=
        beq_iff_eq
      exact splitBy_flatMap_of_key same_iff Operation.rows_ne_nil Operation.key_of_mem_rows distinct
    rw [Table.operations?, mapM_ofCells?_ofRows]
    dsimp only [bind, Option.bind_some]
    rw [runs, mapM_eq_some_map Operation.ofRun?_rows]
  · have part : ((generation.operations.filter (·.kind = kind)).map (·.rowKey)).Nodup :=
      distinct.sublist (List.filter_sublist.map _)
    rw [rows_of_kind, summary_flatMap_rows part, counted, List.filter_map]
    refine congrArg (List.map _) (List.filter_congr fun operation _ => ?_)
    exact decide_eq_decide.2 OperationKind.value_injective.eq_iff.symm

/-- Two schemas without a common field: the operations from one to the other assign nothing. -/
theorem report_lossless_unmatched :
    let schemas : List Schema :=
      [⟨"A", [⟨"x", .bare "int"⟩, ⟨"y", .bare "int"⟩], true⟩, ⟨"B", [⟨"z", .bare "int"⟩], false⟩]
    ∃ generation, Scope.generate {} schemas = .ok generation ∧
      ⟨⟨"convert", "A", "B"⟩, none⟩ ∈ generation.rows none ∧
      (Table.ofRows (generation.rows none)).operations? = some generation.operations ∧
      summary (generation.rows (some .convert)) =
        [⟨⟨"convert", "A", "A"⟩, 2⟩, ⟨⟨"convert", "A", "B"⟩, 0⟩] := by
  intro schemas
  have generated : Scope.generate {} schemas = .ok _ :=
    Scope.generate_of_distinct rfl (by decide)
  obtain ⟨read, counted, kinds⟩ := report_lossless generated
  refine ⟨_, generated, by decide, read, ?_⟩
  rw [(kinds .convert).2, counted]
  decide

end Generation

end Fieldwise
