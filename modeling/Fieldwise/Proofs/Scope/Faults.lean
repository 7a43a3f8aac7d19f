import Fieldwise.Proofs.FirstRepeats
import Fieldwise.Proofs.Scope.Locality
import Fieldwise.Proofs.Validation

/-! # Which fault of a scope counts

Two faults can be in a scope: schemas of one name, and fields of one name within a schema. A shared
schema name counts before all repeated fields. Then a strict pass stops at the first schema that
repeats a field, and a lenient one sets every such schema aside. `Scope.FailsInOrder` says which error
that is; a pass and the indexing of a scope both keep to it (`Scope.generate_faults`). -/

namespace Fieldwise

/-- The fault of a schema that cannot be indexed: its name and the first field that it declares
again. -/
def Schema.HasFault (schema : Schema) (fault : DuplicateField) : Prop :=
  fault.schema = schema.name ∧ IsFirstRepeat schema.fieldNames fault.field

namespace Scope

/-- The fault of the first schema of a scope that has one. -/
def IsFirstFault (schemas : List Schema) (fault : DuplicateField) : Prop :=
  ∃ before schema after, schemas = before ++ schema :: after ∧
    (∀ earlier ∈ before, earlier.Indexable) ∧ schema.HasFault fault

/-- Which error ends a computation over a scope, and when there is one. Only a strict computation
ends with the fault of a schema. -/
structure FailsInOrder {α : Type} (strict : Bool) (schemas : List Schema)
    (result : Except ScopeError α) : Prop where
  sharedName : ∀ name, result = .error (.duplicateSchema name) ↔
    IsFirstRepeat (schemas.map (·.name)) name
  sharesName_iff : (∃ name, result = .error (.duplicateSchema name)) ↔
    ¬ (schemas.map (·.name)).Nodup
  fault : ∀ fault, result = .error (.duplicateField fault) ↔
    (schemas.map (·.name)).Nodup ∧ strict ∧ IsFirstFault schemas fault
  faulty_iff : (∃ fault, result = .error (.duplicateField fault)) ↔
    (schemas.map (·.name)).Nodup ∧ strict ∧ ∃ schema ∈ schemas, ¬ schema.Indexable
  returns_iff : (∃ value, result = .ok value) ↔
    (schemas.map (·.name)).Nodup ∧ (strict → ∀ schema ∈ schemas, schema.Indexable)

/-- A generation names every schema of a scope once, in its order: those with a fault among the
errors, the others among the schemas. -/
structure Isolates (schemas : List Schema) (generation : Generation) : Prop where
  errors : List.Forall₂ Schema.HasFault (schemas.filter (¬ ·.Indexable)) generation.errors
  schemas : generation.schemas = (schemas.filter (·.Indexable)).map (·.name)

variable {options : GenerationOptions} {schemas : List Schema} {marker : String} {strict : Bool}

/-! ## Faults of schemas -/

theorem fault?_eq_some_iff (schema : Schema) (fault : DuplicateField) :
    (schema.repeatedField?.map fun field => ⟨schema.name, field⟩) = some fault ↔
      schema.HasFault fault := by
  rw [Option.map_eq_some_iff]
  constructor
  · rintro ⟨field, repeated, rfl⟩
    exact ⟨rfl, (firstRepeat?_eq_some_iff _ _).1 repeated⟩
  · rintro ⟨named, repeated⟩
    refine ⟨fault.field, (firstRepeat?_eq_some_iff _ _).2 repeated, ?_⟩
    rw [← named]

theorem fault?_eq_none_iff (schema : Schema) :
    (schema.repeatedField?.map fun field => (⟨schema.name, field⟩ : DuplicateField)) = none ↔
      schema.Indexable := by
  rw [Option.map_eq_none_iff, repeatedField?_eq_none_iff]

/-- There is one error for each schema that cannot be indexed, in the order of the scope. -/
theorem forall₂_isolated (schemas : List Schema) :
    List.Forall₂ Schema.HasFault (schemas.filter (¬ ·.Indexable)) (isolated schemas) := by
  induction schemas with
  | nil => exact .nil
  | cons schema rest ih =>
    rw [isolated, List.filterMap_cons]
    cases found : schema.repeatedField?.map fun field => (⟨schema.name, field⟩ : DuplicateField) with
    | none =>
      have indexable := (fault?_eq_none_iff schema).1 found
      rw [List.filter_cons_of_neg (by simpa using indexable)]
      exact ih
    | some fault =>
      have faulty := (fault?_eq_some_iff schema fault).1 found
      have repeats : ¬ schema.Indexable := by
        rw [← fault?_eq_none_iff, found]
        exact Option.some_ne_none fault
      rw [List.filter_cons_of_pos (by simpa using repeats)]
      exact .cons faulty ih

/-- The first error is the fault of the first schema that cannot be indexed. -/
theorem head?_isolated_eq_some_iff (schemas : List Schema) (fault : DuplicateField) :
    (isolated schemas).head? = some fault ↔ IsFirstFault schemas fault := by
  rw [isolated, List.head?_filterMap, List.findSome?_eq_some_iff]
  simp only [fault?_eq_some_iff, fault?_eq_none_iff, IsFirstFault]
  constructor
  · rintro ⟨before, schema, after, same, faulty, sound⟩
    exact ⟨before, schema, after, same, sound, faulty⟩
  · rintro ⟨before, schema, after, same, sound, faulty⟩
    exact ⟨before, schema, after, same, faulty, sound⟩

theorem head?_isolated_eq_none_iff (schemas : List Schema) :
    (isolated schemas).head? = none ↔ ∀ schema ∈ schemas, schema.Indexable := by
  rw [isolated, List.head?_filterMap, List.findSome?_eq_none_iff]
  simp only [fault?_eq_none_iff]

/-- The names of the indexed schemas are those of the schemas that can be indexed. -/
theorem names_indexed (marker : String) (schemas : List Schema) :
    (indexed marker schemas).map (·.name) =
      (schemas.filter (·.Indexable)).map (·.name) := by
  rw [← indexed_filter_indexable]
  induction schemas with
  | nil => rfl
  | cons schema rest ih =>
    by_cases indexable : schema.Indexable
    · rw [List.filter_cons_of_pos (by simpa using indexable), indexed, List.filterMap_cons,
        (toOption_ofSchema_eq_some_iff schema ⟨schema, marker, indexable⟩).2 ⟨rfl, rfl⟩]
      exact congrArg (schema.name :: ·) ih
    · rw [List.filter_cons_of_neg (by simpa using indexable)]
      exact ih

/-! ## The first error -/

/-- The error of a scope that counts: a shared name, or else the first fault of a schema where that is
not set aside. -/
def firstError? (strict : Bool) (schemas : List Schema) : Option ScopeError :=
  ((repeatedName? schemas).map .duplicateSchema).or
    (if strict then (isolated schemas).head?.map .duplicateField else none)

theorem failure?_generate (options : GenerationOptions) (schemas : List Schema) :
    failure? (generate options schemas) = firstError? options.strict schemas := by
  rw [generate, firstError?]
  cases repeatedName? schemas with
  | some name => rfl
  | none => cases options.strict <;> cases isolated schemas <;> rfl

theorem failure?_index (marker : String) (schemas : List Schema) :
    failure? (index marker schemas) = firstError? true schemas := by
  rw [index, firstError?]
  cases repeatedName? schemas with
  | some name => rfl
  | none => cases isolated schemas <;> rfl

theorem firstError?_eq_duplicateSchema_iff (strict : Bool) (schemas : List Schema) (name : String) :
    firstError? strict schemas = some (.duplicateSchema name) ↔
      IsFirstRepeat (schemas.map (·.name)) name := by
  rw [firstError?, ← firstRepeat?_eq_some_iff, ← repeatedName?]
  cases repeatedName? schemas with
  | some found => simp
  | none => cases strict <;> simp

theorem firstError?_eq_duplicateField_iff (strict : Bool) (schemas : List Schema)
    (fault : DuplicateField) :
    firstError? strict schemas = some (.duplicateField fault) ↔
      (schemas.map (·.name)).Nodup ∧ strict ∧ IsFirstFault schemas fault := by
  rw [firstError?, ← firstRepeat?_eq_none_iff, ← repeatedName?, ← head?_isolated_eq_some_iff]
  cases repeatedName? schemas with
  | some found => simp
  | none => cases strict <;> simp

theorem firstError?_eq_none_iff (strict : Bool) (schemas : List Schema) :
    firstError? strict schemas = none ↔
      (schemas.map (·.name)).Nodup ∧ (strict → ∀ schema ∈ schemas, schema.Indexable) := by
  rw [firstError?, ← firstRepeat?_eq_none_iff, ← repeatedName?, ← head?_isolated_eq_none_iff]
  cases repeatedName? schemas with
  | some found => simp
  | none => cases strict <;> simp

theorem exists_isFirstFault_iff (schemas : List Schema) :
    (∃ fault, IsFirstFault schemas fault) ↔ ∃ schema ∈ schemas, ¬ schema.Indexable := by
  have absent := head?_isolated_eq_none_iff schemas
  rw [← not_iff_not, ← ne_eq, Option.ne_none_iff_exists'] at absent
  simpa only [head?_isolated_eq_some_iff, not_forall, exists_prop] using absent

/-- A computation that ends with the error that counts fails in order. -/
theorem failsInOrder_of_failure? {α : Type} {result : Except ScopeError α}
    (fails : failure? result = firstError? strict schemas) : FailsInOrder strict schemas result := by
  have sharedName := firstError?_eq_duplicateSchema_iff strict schemas
  have fault := firstError?_eq_duplicateField_iff strict schemas
  have returns := firstError?_eq_none_iff strict schemas
  simp only [← fails, failure?_eq_some_iff, failure?_eq_none_iff] at sharedName fault returns
  refine ⟨sharedName, ?_, fault, ?_, returns⟩
  · simp only [sharedName, exists_isFirstRepeat_iff]
  · simp only [fault, exists_and_left, exists_isFirstFault_iff]

theorem failsInOrder_generate (options : GenerationOptions) (schemas : List Schema) :
    FailsInOrder options.strict schemas (generate options schemas) :=
  failsInOrder_of_failure? (failure?_generate options schemas)

/-- A generation sets aside exactly the schemas with a fault. -/
theorem isolates_of_generate {generation : Generation}
    (generated : generate options schemas = .ok generation) : Isolates schemas generation := by
  have named := schemas_of_generate generated
  rw [names_indexed] at named
  refine ⟨?_, named⟩
  rw [generate] at generated
  split at generated
  · cases generated
  · split at generated
    · cases generated
    · cases generated
      exact forall₂_isolated schemas

/-- Where nothing is set aside, strictness makes no difference. -/
theorem generate_strict_eq_ok_iff (generation : Generation) :
    generate { options with strict := true } schemas = .ok generation ↔
      generate { options with strict := false } schemas = .ok generation ∧ generation.errors = [] := by
  rw [generate, generate]
  cases repeatedName? schemas with
  | some name => simp
  | none =>
    cases none_isolated : isolated schemas with
    | nil =>
      refine ⟨fun same => ⟨same, ?_⟩, And.left⟩
      rw [← Except.ok.inj same]
    | cons fault rest =>
      refine iff_of_false (fun failed => by cases failed) ?_
      rintro ⟨⟨rfl⟩, none⟩
      cases none

/-- A pass, strict or not, and the indexing of a scope, which is always strict, fail in order;
indexing fails exactly as a strict pass does. A pass that returns has set aside the schemas with a
fault, and it is the same whether it is strict or not if there are none. -/
theorem generate_faults (options : GenerationOptions) (schemas : List Schema) (marker : String) :
    FailsInOrder options.strict schemas (generate options schemas) ∧
    (∀ generation, generate options schemas = .ok generation → Isolates schemas generation) ∧
    FailsInOrder true schemas (index marker schemas) ∧
    (∀ error, index marker schemas = .error error ↔
      generate { options with strict := true } schemas = .error error) ∧
    ∀ generation, generate { options with strict := true } schemas = .ok generation ↔
      generate { options with strict := false } schemas = .ok generation ∧
        generation.errors = [] := by
  refine ⟨failsInOrder_generate options schemas, fun generation => isolates_of_generate,
    failsInOrder_of_failure? (failure?_index marker schemas), fun error => ?_,
    generate_strict_eq_ok_iff⟩
  rw [← failure?_eq_some_iff, ← failure?_eq_some_iff, failure?_index, failure?_generate]

end Scope

/-- A shared name counts before a repeated field that stands before it. -/
example : Scope.generate { strict := true }
    [⟨"A", [⟨"x", .bare "int"⟩, ⟨"x", .bare "int"⟩], true⟩, ⟨"B", [], true⟩, ⟨"B", [], true⟩] =
      .error (.duplicateSchema "B") := by
  decide

end Fieldwise
