import Fieldwise.Proofs.Scope.Resolution
import Fieldwise.Scope
import Mathlib.Data.Prod.Lex

/-! # What a generation pass emits

`Scope.Emits` says for which ordered pairs of schemas there is a move and for which a conversion;
`Operation.rank` is the place of an operation by the positions of its two schemas in the scope. A
pass over schemas of distinct names emits exactly the operations of the first, strictly ascending in
the second, so no operation occurs twice and a lookup finds the only one there is. -/

namespace Fieldwise

/-- What identifies an operation within a scope: its kind, its source and its target. -/
def Operation.key (operation : Operation) : OperationKind × String × String :=
  (operation.kind, operation.sourceSchema, operation.targetSchema)

/-- The place of an operation: first by the target's position, then by the source's, then the move
before the conversion. -/
def Operation.rank (names : List String) (operation : Operation) : ℕ ×ₗ ℕ ×ₗ ℕ :=
  toLex (names.idxOf operation.targetSchema,
    toLex (names.idxOf operation.sourceSchema, OperationKind.all.idxOf operation.kind))

namespace Scope

/-- Whether an ordered pair of schemas has an operation of a kind. A pair of a schema with itself
needs the option for it, and a conversion needs a target with a default instance. -/
def Emits (options : GenerationOptions) (kind : OperationKind) (source target : Schema) : Prop :=
  source.Indexable ∧ target.Indexable ∧
    match kind with
    | .move => options.selfMoves ∨ source.name ≠ target.name
    | .convert =>
      target.defaultConstructible ∧ (options.selfConversions ∨ source.name ≠ target.name)

/-- Whether two schemas of a scope that have the given names have an operation of a kind. -/
def EmitsNamed (options : GenerationOptions) (schemas : List Schema) (kind : OperationKind)
    (sourceName targetName : String) : Prop :=
  ∃ source ∈ schemas, ∃ target ∈ schemas,
    source.name = sourceName ∧ target.name = targetName ∧ Emits options kind source target

/-- The operations that a scope has under some options: which ones, in which order, and what each
of them assigns. -/
structure Emission (options : GenerationOptions) (schemas : List Schema)
    (operations : List Operation) : Prop where
  distinct : (operations.map (·.key)).Nodup
  mem_keys_iff : ∀ kind sourceName targetName,
    (kind, sourceName, targetName) ∈ operations.map (·.key) ↔
      EmitsNamed options schemas kind sourceName targetName
  ascending : operations.Pairwise fun first second =>
    first.rank (schemas.map (·.name)) < second.rank (schemas.map (·.name))
  matched : ∀ operation ∈ operations, ∀ source ∈ schemas, ∀ target ∈ schemas,
    operation.sourceSchema = source.name → operation.targetSchema = target.name →
      source.Matched options.marker target operation.correspondences

variable {options : GenerationOptions} {schemas : List Schema} {marker : String}

theorem ofSchema_eq_ok_iff (schema : Schema) (index : SchemaIndex) :
    SchemaIndex.ofSchema marker schema = .ok index ↔
      index.schema = schema ∧ index.marker = marker := by
  rw [SchemaIndex.ofSchema]
  split
  · rename_i field repeated
    simp only [reduceCtorEq, false_iff, not_and]
    rintro rfl
    rw [Schema.repeatedField?, (firstRepeat?_eq_none_iff _).2 index.distinct] at repeated
    cases repeated
  · constructor
    · intro same
      cases same
      exact ⟨rfl, rfl⟩
    · rintro ⟨sameSchema, sameMarker⟩
      exact congrArg Except.ok (SchemaIndex.ext sameSchema.symm sameMarker.symm)

theorem toOption_ofSchema_eq_some_iff (schema : Schema) (index : SchemaIndex) :
    (SchemaIndex.ofSchema marker schema).toOption = some index ↔
      index.schema = schema ∧ index.marker = marker := by
  rw [← ofSchema_eq_ok_iff]
  cases SchemaIndex.ofSchema marker schema with
  | error _ => simp [Except.toOption]
  | ok found => simp [Except.toOption]

/-- The indexes of a scope are those of its schemas under the marker. -/
theorem mem_indexed_iff (index : SchemaIndex) :
    index ∈ indexed marker schemas ↔ index.schema ∈ schemas ∧ index.marker = marker := by
  rw [indexed, List.mem_filterMap]
  constructor
  · rintro ⟨schema, member, found⟩
    obtain ⟨rfl, sameMarker⟩ := (toOption_ofSchema_eq_some_iff schema index).1 found
    exact ⟨member, sameMarker⟩
  · rintro ⟨member, sameMarker⟩
    exact ⟨_, member, (toOption_ofSchema_eq_some_iff _ index).2 ⟨rfl, sameMarker⟩⟩

/-- Setting schemas aside keeps the order of the others. -/
theorem indexed_names_sublist (marker : String) (schemas : List Schema) :
    ((indexed marker schemas).map (·.name)).Sublist (schemas.map (·.name)) := by
  apply map_filterMap_sublist
  intro schema index found
  rw [SchemaIndex.name, ((toOption_ofSchema_eq_some_iff schema index).1 found).1]

theorem indexed_positions_ascend (marker : String) (distinct : (schemas.map (·.name)).Nodup) :
    (indexed marker schemas).Pairwise fun first second =>
      (schemas.map (·.name)).idxOf first.name < (schemas.map (·.name)).idxOf second.name := by
  have ascending := (pairwise_idxOf_lt distinct).sublist (indexed_names_sublist marker schemas)
  rwa [List.pairwise_map] at ascending

/-- The operation of a kind for an ordered pair, whether it is emitted or not. -/
def operation (kind : OperationKind) (source target : SchemaIndex) : Operation :=
  ⟨kind, source.name, target.name, source.resolve target⟩

/-- A pair has at most a move and a conversion; both carry the same correspondences. -/
theorem mem_operationsOf_iff (source target : SchemaIndex) (emitted : Operation) :
    emitted ∈ operationsOf options source target ↔
      ∃ kind, Emits options kind source.schema target.schema ∧
        emitted = operation kind source target := by
  have sourceIndexable : source.schema.Indexable := source.distinct
  have targetIndexable : target.schema.Indexable := target.distinct
  have selfPair : (!(source.name == target.name)) = true ↔
      source.schema.name ≠ target.schema.name := by
    simp [SchemaIndex.name]
  rw [operationsOf, List.mem_append]
  constructor
  · rintro (moved | converted)
    · split at moved
      · rename_i allowed
        rw [Bool.or_eq_true, selfPair] at allowed
        exact ⟨.move, ⟨sourceIndexable, targetIndexable, allowed⟩, List.mem_singleton.1 moved⟩
      · cases moved
    · split at converted
      · rename_i allowed
        rw [Bool.or_eq_true, selfPair] at allowed
        rw [Option.mem_toList, Operation.conversion?, Option.ite_none_right_eq_some] at converted
        obtain ⟨constructible, same⟩ := converted
        exact ⟨.convert, ⟨sourceIndexable, targetIndexable, constructible, allowed⟩,
          (Option.some.inj same).symm⟩
      · cases converted
  · rintro ⟨kind, ⟨-, -, allowed⟩, rfl⟩
    cases kind with
    | move =>
      rw [← selfPair, ← Bool.or_eq_true] at allowed
      rw [if_pos allowed]
      exact .inl (List.mem_singleton.2 rfl)
    | convert =>
      obtain ⟨constructible, allowed⟩ := allowed
      rw [← selfPair, ← Bool.or_eq_true] at allowed
      rw [if_pos allowed, Operation.conversion?, if_pos constructible]
      exact .inr (Option.mem_toList.2 rfl)

/-- A pair has at most its move and then its conversion. -/
theorem operationsOf_sublist (options : GenerationOptions) (source target : SchemaIndex) :
    (operationsOf options source target).Sublist
      [operation .move source target, operation .convert source target] := by
  have pair : [operation .move source target, operation .convert source target] =
      [operation .move source target] ++ [operation .convert source target] := rfl
  rw [operationsOf, pair]
  apply List.Sublist.append
  · split
    · exact .refl _
    · exact List.nil_sublist _
  · rw [Operation.conversion?]
    split
    · split
      · exact .refl _
      · exact List.nil_sublist _
    · exact List.nil_sublist _

theorem mem_operations_iff (indexes : List SchemaIndex) (emitted : Operation) :
    emitted ∈ operations options indexes ↔ ∃ source ∈ indexes, ∃ target ∈ indexes, ∃ kind,
      Emits options kind source.schema target.schema ∧ emitted = operation kind source target := by
  simp only [operations, List.mem_flatMap, mem_operationsOf_iff]
  constructor
  · rintro ⟨target, targetMember, source, sourceMember, emits⟩
    exact ⟨source, sourceMember, target, targetMember, emits⟩
  · rintro ⟨source, sourceMember, target, targetMember, emits⟩
    exact ⟨target, targetMember, source, sourceMember, emits⟩

/-- Operations ascend by rank wherever the indexes ascend by the positions of their names. -/
theorem operations_ascend {names : List String} {indexes : List SchemaIndex}
    (ascending : indexes.Pairwise fun first second =>
      names.idxOf first.name < names.idxOf second.name) :
    (operations options indexes).Pairwise fun first second =>
      first.rank names < second.rank names := by
  have within (source target : SchemaIndex) : (operationsOf options source target).Pairwise
      fun first second => first.rank names < second.rank names := by
    refine .sublist (operationsOf_sublist options source target) (List.pairwise_pair.2 ?_)
    rw [Operation.rank, Operation.rank, Prod.Lex.toLex_lt_toLex, Prod.Lex.toLex_lt_toLex]
    have movesFirst : OperationKind.all.idxOf .move < OperationKind.all.idxOf .convert := by decide
    exact .inr ⟨rfl, .inr ⟨rfl, movesFirst⟩⟩
  rw [operations, List.pairwise_flatMap]
  refine ⟨fun target _ => List.pairwise_flatMap.2 ⟨fun source _ => within source target, ?_⟩, ?_⟩
  · refine ascending.imp fun before first firstMember second secondMember => ?_
    obtain ⟨_, -, rfl⟩ := (mem_operationsOf_iff _ _ _).1 firstMember
    obtain ⟨_, -, rfl⟩ := (mem_operationsOf_iff _ _ _).1 secondMember
    rw [Operation.rank, Operation.rank, Prod.Lex.toLex_lt_toLex, Prod.Lex.toLex_lt_toLex]
    exact .inr ⟨rfl, .inl before⟩
  · refine ascending.imp fun before first firstMember second secondMember => ?_
    obtain ⟨_, -, firstMember⟩ := List.mem_flatMap.1 firstMember
    obtain ⟨_, -, secondMember⟩ := List.mem_flatMap.1 secondMember
    obtain ⟨_, -, rfl⟩ := (mem_operationsOf_iff _ _ _).1 firstMember
    obtain ⟨_, -, rfl⟩ := (mem_operationsOf_iff _ _ _).1 secondMember
    rw [Operation.rank, Operation.rank, Prod.Lex.toLex_lt_toLex]
    exact .inl before

/-- Operations of one key have one rank, so ascending operations have distinct keys. -/
theorem keys_nodup {names : List String} {emitted : List Operation}
    (ascending : emitted.Pairwise fun first second => first.rank names < second.rank names) :
    (emitted.map (·.key)).Nodup := by
  refine List.pairwise_map.2 (ascending.imp fun before same => before.ne ?_)
  simp only [Operation.key, Prod.mk.injEq] at same
  rw [Operation.rank, Operation.rank, same.1, same.2.1, same.2.2]

theorem mem_operations_indexed_iff (emitted : Operation) :
    emitted ∈ operations options (indexed options.marker schemas) ↔
      ∃ source target : SchemaIndex, (source.schema ∈ schemas ∧ source.marker = options.marker) ∧
        (target.schema ∈ schemas ∧ target.marker = options.marker) ∧
        ∃ kind, Emits options kind source.schema target.schema ∧
          emitted = operation kind source target := by
  simp only [mem_operations_iff, mem_indexed_iff]
  constructor
  · rintro ⟨source, sourceMember, target, targetMember, emits⟩
    exact ⟨source, target, sourceMember, targetMember, emits⟩
  · rintro ⟨source, target, sourceMember, targetMember, emits⟩
    exact ⟨source, sourceMember, target, targetMember, emits⟩

/-- The keys of the operations are those of the pairs that have an operation. -/
theorem mem_keys_operations_iff (kind : OperationKind) (sourceName targetName : String) :
    (kind, sourceName, targetName) ∈
        (operations options (indexed options.marker schemas)).map (·.key) ↔
      EmitsNamed options schemas kind sourceName targetName := by
  simp only [List.mem_map, mem_operations_indexed_iff]
  constructor
  · rintro ⟨_, ⟨source, target, sourceMember, targetMember, _, emits, rfl⟩, same⟩
    simp only [Operation.key, operation, Prod.mk.injEq] at same
    obtain ⟨rfl, rfl, rfl⟩ := same
    exact ⟨source.schema, sourceMember.1, target.schema, targetMember.1, rfl, rfl, emits⟩
  · rintro ⟨source, sourceMember, target, targetMember, rfl, rfl, emits⟩
    let sourceIndex : SchemaIndex := ⟨source, options.marker, emits.1⟩
    let targetIndex : SchemaIndex := ⟨target, options.marker, emits.2.1⟩
    exact ⟨operation kind sourceIndex targetIndex,
      ⟨sourceIndex, targetIndex, ⟨sourceMember, rfl⟩, ⟨targetMember, rfl⟩, kind, emits, rfl⟩, rfl⟩

/-- Every operation assigns exactly what its two schemas have in common. -/
theorem matched_of_mem_operations (distinct : (schemas.map (·.name)).Nodup) {emitted : Operation}
    (member : emitted ∈ operations options (indexed options.marker schemas)) {source target : Schema}
    (sourceMember : source ∈ schemas) (targetMember : target ∈ schemas)
    (sourceNamed : emitted.sourceSchema = source.name)
    (targetNamed : emitted.targetSchema = target.name) :
    source.Matched options.marker target emitted.correspondences := by
  obtain ⟨sourceIndex, targetIndex, ⟨sourceIn, sourceMarker⟩, ⟨targetIn, targetMarker⟩, kind, -, rfl⟩ :=
    (mem_operations_indexed_iff emitted).1 member
  obtain rfl := List.inj_on_of_nodup_map distinct sourceIn sourceMember sourceNamed
  obtain rfl := List.inj_on_of_nodup_map distinct targetIn targetMember targetNamed
  rw [← targetMarker]
  exact SchemaIndex.resolve_matched (sourceMarker.trans targetMarker.symm)

theorem emission_operations (distinct : (schemas.map (·.name)).Nodup) :
    Emission options schemas (operations options (indexed options.marker schemas)) where
  distinct := keys_nodup (operations_ascend (indexed_positions_ascend options.marker distinct))
  mem_keys_iff := mem_keys_operations_iff
  ascending := operations_ascend (indexed_positions_ascend options.marker distinct)
  matched _ member _ sourceMember _ targetMember :=
    matched_of_mem_operations distinct member sourceMember targetMember

/-- Whatever a pass returns, strict or not, has the operations of a scope of distinct names. -/
theorem operations_of_generate {generation : Generation}
    (generated : generate options schemas = .ok generation) : (schemas.map (·.name)).Nodup ∧
      generation.operations = operations options (indexed options.marker schemas) := by
  rw [generate] at generated
  split at generated
  · cases generated
  · rename_i unrepeated
    refine ⟨(firstRepeat?_eq_none_iff _).1 unrepeated, ?_⟩
    split at generated
    · cases generated
    · exact congrArg Generation.operations (Except.ok.inj generated).symm

/-- The schemas that a pass returns are those that were indexed. -/
theorem schemas_of_generate {generation : Generation}
    (generated : generate options schemas = .ok generation) :
    generation.schemas = (indexed options.marker schemas).map (·.name) := by
  rw [generate] at generated
  split at generated
  · cases generated
  · split at generated
    · cases generated
    · exact congrArg Generation.schemas (Except.ok.inj generated).symm

/-- Only pairs that have an operation of a kind get one. -/
theorem emits_of_mem_operations (distinct : (schemas.map (·.name)).Nodup) {emitted : Operation}
    (member : emitted ∈ operations options (indexed options.marker schemas)) {source target : Schema}
    (sourceMember : source ∈ schemas) (targetMember : target ∈ schemas)
    (sourceNamed : emitted.sourceSchema = source.name)
    (targetNamed : emitted.targetSchema = target.name) :
    Emits options emitted.kind source target := by
  obtain ⟨sourceIndex, targetIndex, ⟨sourceIn, -⟩, ⟨targetIn, -⟩, kind, emits, rfl⟩ :=
    (mem_operations_indexed_iff emitted).1 member
  obtain rfl := List.inj_on_of_nodup_map distinct sourceIn sourceMember sourceNamed
  obtain rfl := List.inj_on_of_nodup_map distinct targetIn targetMember targetNamed
  exact emits

/-- The assignments of an operation are those of its pair, whatever its kind. -/
theorem correspondences_of_mem_operations (distinct : (schemas.map (·.name)).Nodup)
    {emitted : Operation} (member : emitted ∈ operations options (indexed options.marker schemas))
    {source target : SchemaIndex} (sourceMember : source ∈ indexed options.marker schemas)
    (targetMember : target ∈ indexed options.marker schemas)
    (sourceNamed : emitted.sourceSchema = source.name)
    (targetNamed : emitted.targetSchema = target.name) :
    emitted.correspondences = source.resolve target := by
  obtain ⟨sourceIndex, targetIndex, ⟨sourceIn, sourceMarker⟩, ⟨targetIn, targetMarker⟩, kind, -, rfl⟩ :=
    (mem_operations_indexed_iff emitted).1 member
  rw [mem_indexed_iff] at sourceMember targetMember
  obtain rfl := SchemaIndex.ext
    (List.inj_on_of_nodup_map distinct sourceIn sourceMember.1 sourceNamed)
    (sourceMarker.trans sourceMember.2.symm)
  obtain rfl := SchemaIndex.ext
    (List.inj_on_of_nodup_map distinct targetIn targetMember.1 targetNamed)
    (targetMarker.trans targetMember.2.symm)
  rfl

/-- With distinct names and without strictness a pass always returns. -/
theorem generate_of_distinct (lenient : options.strict = false)
    (distinct : (schemas.map (·.name)).Nodup) :
    generate options schemas = .ok ⟨operations options (indexed options.marker schemas),
      isolated schemas, (indexed options.marker schemas).map (·.name)⟩ := by
  have unrepeated : repeatedName? schemas = none := (firstRepeat?_eq_none_iff _).2 distinct
  rw [generate, unrepeated, lenient]

end Scope

namespace Generation

/-- The operations of a kind and a pair are those of its key. -/
theorem isFor_iff_key (kind : OperationKind) (source target : String) :
    isFor kind source target = fun operation => operation.key == (kind, source, target) := by
  funext operation
  rw [isFor, Operation.key, Bool.and_assoc]
  rfl

theorem find?_eq_some_iff {generation : Generation}
    (distinct : (generation.operations.map (·.key)).Nodup) (kind : OperationKind)
    (source target : String) (operation : Operation) :
    generation.find? kind source target = some operation ↔
      operation ∈ generation.operations ∧ operation.key = (kind, source, target) := by
  rw [find?, isFor_iff_key]
  exact find?_key_eq_some_iff distinct _ _

theorem find?_eq_none_iff (generation : Generation) (kind : OperationKind)
    (source target : String) :
    generation.find? kind source target = none ↔
      (kind, source, target) ∉ generation.operations.map (·.key) := by
  rw [find?, isFor_iff_key]
  simp

end Generation

/-- A pass over schemas of distinct names returns the operations of all pairs that have one, each
once, in the order of the scope and with exactly the correspondences of its pair; a lookup finds an
operation exactly where there is one. -/
theorem Scope.generate_emission (options : GenerationOptions) (schemas : List Schema)
    (lenient : options.strict = false) (distinct : (schemas.map (·.name)).Nodup) :
    ∃ generation, generate options schemas = .ok generation ∧
      Emission options schemas generation.operations ∧
      ∀ kind sourceName targetName,
        (∀ operation, generation.find? kind sourceName targetName = some operation ↔
          operation ∈ generation.operations ∧ operation.key = (kind, sourceName, targetName)) ∧
        (generation.find? kind sourceName targetName = none ↔
          ¬ EmitsNamed options schemas kind sourceName targetName) := by
  refine ⟨_, generate_of_distinct lenient distinct, emission_operations distinct, ?_⟩
  intro kind sourceName targetName
  constructor
  · intro operation
    exact Generation.find?_eq_some_iff (emission_operations distinct).distinct _ _ _ _
  · rw [Generation.find?_eq_none_iff, ← mem_keys_operations_iff]

/-- A scope with a schema that is set aside, passed without self moves. -/
theorem Scope.generate_emission_without_selfMoves :
    let options : GenerationOptions := { selfMoves := false }
    let schemas : List Schema :=
      [⟨"A", [⟨"x", .bare "int"⟩, ⟨"y", .bare "str"⟩], true⟩,
        ⟨"B", [⟨"x", .bare "int"⟩, ⟨"x", .bare "str"⟩], true⟩,
        ⟨"C", [⟨"y", .bare "str"⟩, ⟨"x", .mk "Optional" [.bare "int"]⟩], false⟩]
    options.strict = false ∧ (schemas.map (·.name)).Nodup ∧
      ∃ generation, generate options schemas = .ok generation ∧
        Emission options schemas generation.operations ∧
        generation.find? .move "A" "A" = none := by
  intro options schemas
  have distinct : (schemas.map (·.name)).Nodup := by decide
  obtain ⟨generation, generated, emission, found⟩ := generate_emission options schemas rfl distinct
  refine ⟨rfl, distinct, generation, generated, emission, (found .move "A" "A").2.2 ?_⟩
  rintro ⟨source, -, target, -, sourceNamed, targetNamed, -, -, allowed | differ⟩
  · cases allowed
  · exact differ (sourceNamed.trans targetNamed.symm)

end Fieldwise
