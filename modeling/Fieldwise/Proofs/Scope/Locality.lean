import Fieldwise.Proofs.Scope.Emission
import Mathlib.Data.List.Perm.Basic

/-! # Operations depend on their own schemas only

What a pass emits for a part of a scope is what it emits for the whole scope, as far as the schemas
belong to the part (`Scope.generate_within`). So schemas can be added at any place, and those that
are set aside can be removed, without a change between the others; a reordered scope has the same
operations in another order. -/

namespace Fieldwise

/-- Whether both schemas of an operation are among some names. -/
def Operation.isWithin (names : List String) (operation : Operation) : Bool :=
  operation.sourceSchema ∈ names ∧ operation.targetSchema ∈ names

/-- The part of a generation that belongs to some names. -/
def Generation.within (names : List String) (generation : Generation) : Generation where
  operations := generation.operations.filter (Operation.isWithin names)
  errors := generation.errors.filter (·.schema ∈ names)
  schemas := generation.schemas.filter (· ∈ names)

namespace Scope

variable {options : GenerationOptions} {schemas part : List Schema} {marker : String}

/-! ## Parts of a scope -/

/-- The indexes of a part are those of the scope that belong to it. -/
theorem indexed_filter (marker : String) (schemas : List Schema) (names : List String) :
    indexed marker (schemas.filter (·.name ∈ names)) =
      (indexed marker schemas).filter (·.name ∈ names) := by
  refine filterMap_filter_key (fun schema index found => ?_) (· ∈ names) schemas
  rw [SchemaIndex.name, ((toOption_ofSchema_eq_some_iff schema index).1 found).1]

/-- The errors of a part are those of the scope that belong to it. -/
theorem isolated_filter (schemas : List Schema) (names : List String) :
    isolated (schemas.filter (·.name ∈ names)) =
      (isolated schemas).filter (·.schema ∈ names) := by
  refine filterMap_filter_key (fun schema error found => ?_) (· ∈ names) schemas
  obtain ⟨field, -, rfl⟩ := Option.map_eq_some_iff.1 found
  rfl

/-- All operations of a pair belong to the names that both of its schemas belong to. -/
theorem filter_operationsOf (names : List String) (source target : SchemaIndex) :
    (operationsOf options source target).filter (Operation.isWithin names) =
      if source.name ∈ names ∧ target.name ∈ names then operationsOf options source target
      else [] := by
  have same : ∀ emitted ∈ operationsOf options source target,
      Operation.isWithin names emitted = decide (source.name ∈ names ∧ target.name ∈ names) := by
    intro emitted member
    obtain ⟨kind, -, rfl⟩ := (mem_operationsOf_iff source target emitted).1 member
    rfl
  rw [List.filter_congr same]
  split
  · rename_i inside
    simp [inside]
  · rename_i outside
    simp [outside]

/-- The operations of a part are those of the whole that belong to it, in the same order. -/
theorem operations_filter (indexes : List SchemaIndex) (names : List String) :
    operations options (indexes.filter (·.name ∈ names)) =
      (operations options indexes).filter (Operation.isWithin names) := by
  rw [operations, operations, List.filter_flatMap, flatMap_filter_eq]
  refine List.flatMap_congr fun target _ => ?_
  rw [List.filter_flatMap, flatMap_filter_eq]
  simp only [filter_operationsOf, decide_eq_true_eq]
  split
  · rename_i inside
    simp only [inside, and_true]
  · rename_i outside
    simp [outside]

theorem generate_filter (lenient : options.strict = false)
    (distinct : (schemas.map (·.name)).Nodup) (names : List String) :
    generate options (schemas.filter (·.name ∈ names)) =
      (generate options schemas).map (Generation.within names) := by
  have distinctPart : ((schemas.filter (·.name ∈ names)).map (·.name)).Nodup :=
    (List.filter_sublist.map _).nodup distinct
  rw [generate_of_distinct lenient distinct, generate_of_distinct lenient distinctPart,
    indexed_filter, isolated_filter, operations_filter]
  simp [Except.map, Generation.within, List.filter_map, Function.comp_def]

/-! ## Schemas that are set aside -/

theorem repeatedField?_eq_none_iff (schema : Schema) :
    schema.repeatedField? = none ↔ schema.Indexable :=
  firstRepeat?_eq_none_iff _

/-- The names among the errors are those of the schemas that cannot be indexed. -/
theorem mem_isolated_names_iff (distinct : (schemas.map (·.name)).Nodup) {schema : Schema}
    (member : schema ∈ schemas) :
    schema.name ∈ (isolated schemas).map (·.schema) ↔ ¬ schema.Indexable := by
  rw [← repeatedField?_eq_none_iff, ← ne_eq, Option.ne_none_iff_exists', List.mem_map]
  constructor
  · rintro ⟨error, found, named⟩
    obtain ⟨other, otherIn, made⟩ := List.mem_filterMap.1 found
    obtain ⟨field, repeated, rfl⟩ := Option.map_eq_some_iff.1 made
    obtain rfl := List.inj_on_of_nodup_map distinct otherIn member named
    exact ⟨field, repeated⟩
  · rintro ⟨field, repeated⟩
    refine ⟨⟨schema.name, field⟩, List.mem_filterMap.2 ⟨schema, member, ?_⟩, rfl⟩
    rw [repeated]
    rfl

/-- Schemas that cannot be indexed leave no trace among the indexes. -/
theorem indexed_filter_indexable (marker : String) (schemas : List Schema) :
    indexed marker (schemas.filter (·.Indexable)) = indexed marker schemas := by
  rw [indexed, indexed, List.filterMap_filter]
  refine List.filterMap_congr fun schema _ => ?_
  split
  · rfl
  · rename_i repeated
    rw [decide_eq_true_eq] at repeated
    refine (Option.eq_none_iff_forall_ne_some.2 fun index found => repeated ?_).symm
    rw [← ((toOption_ofSchema_eq_some_iff schema index).1 found).1]
    exact index.distinct

theorem isolated_filter_indexable (schemas : List Schema) :
    isolated (schemas.filter (·.Indexable)) = [] := by
  rw [isolated, List.filterMap_eq_nil_iff]
  intro schema member
  rw [List.mem_filter, decide_eq_true_eq] at member
  rw [(repeatedField?_eq_none_iff schema).2 member.2]
  rfl

/-- A lenient pass over the schemas that are not set aside makes the same without errors. -/
theorem generate_filter_indexable (lenient : options.strict = false)
    (distinct : (schemas.map (·.name)).Nodup) {generation : Generation}
    (generated : generate options schemas = .ok generation) :
    generate options (schemas.filter (·.Indexable)) = .ok { generation with errors := [] } := by
  obtain rfl := Except.ok.inj ((generate_of_distinct lenient distinct).symm.trans generated)
  rw [generate_of_distinct lenient ((List.filter_sublist.map _).nodup distinct),
    indexed_filter_indexable, isolated_filter_indexable]

/-! ## Reordered scopes -/

theorem operations_perm {indexes others : List SchemaIndex} (reordered : others.Perm indexes) :
    (operations options others).Perm (operations options indexes) :=
  reordered.flatMap fun _ _ => reordered.flatMap_right _

end Scope

/-- A pass over some schemas of a scope, in its order, returns the part of the whole that belongs to
them. In particular nothing else changes if the schemas are removed that were set aside. A reordered
scope gives the same operations. -/
theorem Scope.generate_within (options : GenerationOptions) {schemas : List Schema}
    (lenient : options.strict = false) (distinct : (schemas.map (·.name)).Nodup) :
    ∃ generation, generate options schemas = .ok generation ∧
      (∀ part : List Schema, part.Sublist schemas →
        generate options part = .ok (generation.within (part.map (·.name)))) ∧
      generate options (schemas.filter (·.name ∉ generation.errors.map (·.schema))) =
        .ok { generation with errors := [] } ∧
      ∀ others : List Schema, others.Perm schemas →
        ∃ reordered, generate options others = .ok reordered ∧
          reordered.operations.Perm generation.operations := by
  refine ⟨_, generate_of_distinct lenient distinct, ?_, ?_, ?_⟩
  · intro part sub
    rw [eq_filter_key_of_sublist sub distinct, generate_filter lenient distinct,
      generate_of_distinct lenient distinct, ← eq_filter_key_of_sublist sub distinct]
    rfl
  · have kept : schemas.filter (·.name ∉ (isolated schemas).map (·.schema)) =
        schemas.filter (·.Indexable) :=
      List.filter_congr fun schema member => by simp [mem_isolated_names_iff distinct member]
    rw [kept, generate_of_distinct lenient ((List.filter_sublist.map _).nodup distinct),
      indexed_filter_indexable, isolated_filter_indexable]
  · intro others reordered
    exact ⟨_, generate_of_distinct lenient ((reordered.map _).nodup_iff.2 distinct),
      operations_perm (reordered.filterMap _)⟩

/-- The second schema is set aside; without the third, the self operations of the first remain. -/
theorem Scope.generate_within_first :
    let first : Schema := ⟨"A", [⟨"x", .bare "int"⟩], true⟩
    let isolated : Schema := ⟨"B", [⟨"x", .bare "int"⟩, ⟨"x", .bare "str"⟩], true⟩
    let third : Schema := ⟨"C", [⟨"x", .mk "Optional" [.bare "int"]⟩], false⟩
    let schemas : List Schema := [first, isolated, third]
    (schemas.map (·.name)).Nodup ∧ [first, isolated].Sublist schemas ∧
      [third, first, isolated].Perm schemas ∧
      ∃ generation, generate {} schemas = .ok generation ∧
        generate {} [first, isolated] = .ok ⟨[⟨.move, "A", "A", [⟨"x", "x", .plainToPlain⟩]⟩,
          ⟨.convert, "A", "A", [⟨"x", "x", .plainToPlain⟩]⟩], [⟨"B", "x"⟩], ["A"]⟩ ∧
        generate {} [first, third] = .ok { generation with errors := [] } ∧
        ∃ reordered, generate {} [third, first, isolated] = .ok reordered ∧
          reordered.operations.Perm generation.operations := by
  intro first isolated third schemas
  have distinct : (schemas.map (·.name)).Nodup := by decide
  have sub : [first, isolated].Sublist schemas := by decide
  have reordered : [third, first, isolated].Perm schemas := by decide
  obtain ⟨generation, generated, parts, removed, permuted⟩ := generate_within {} rfl distinct
  obtain rfl : _ = generation :=
    Except.ok.inj ((generate_of_distinct rfl distinct).symm.trans generated)
  refine ⟨distinct, sub, reordered, _, generated, (parts _ sub).trans ?_, removed,
    permuted _ reordered⟩
  decide

end Fieldwise
