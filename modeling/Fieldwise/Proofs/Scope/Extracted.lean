import Fieldwise.Proofs.Inheritance.Selection
import Fieldwise.Proofs.Scope.Faults

/-! # Scopes that were extracted

A pass sets a schema aside if it declares a field twice. Record types are tables of fields, so no
class has such a schema, however often its body and its bases declare a field. A pass over the
schemas of a module therefore sets nothing aside, strict or not. All that can stop it are two record
classes of one name (`Schema.generate_ofModule`). -/

namespace Fieldwise

namespace Scope

variable {schemas : List Schema}

/-- A scope without faulty schemas. -/
theorem isolated_eq_nil (sound : ∀ schema ∈ schemas, schema.Indexable) : isolated schemas = [] :=
  List.head?_eq_none_iff.1 ((head?_isolated_eq_none_iff schemas).2 sound)

/-- Strictness makes no difference to a scope without faulty schemas. -/
theorem generate_strict_eq (sound : ∀ schema ∈ schemas, schema.Indexable)
    (options : GenerationOptions) :
    generate { options with strict := true } schemas =
      generate { options with strict := false } schemas := by
  rw [generate, generate, isolated_eq_nil sound]
  cases repeatedName? schemas <;> rfl

/-- A generation over a scope without faulty schemas names them all, and no errors. -/
theorem Isolates.of_indexable {generation : Generation} (isolates : Isolates schemas generation)
    (sound : ∀ schema ∈ schemas, schema.Indexable) :
    generation.errors = [] ∧ generation.schemas = schemas.map (·.name) := by
  have none : schemas.filter (¬ ·.Indexable) = [] :=
    List.filter_eq_nil_iff.2 fun schema member => by simpa using sound schema member
  have all : schemas.filter (·.Indexable) = schemas :=
    List.filter_eq_self.2 fun schema member => by simpa using sound schema member
  obtain ⟨errors, named⟩ := isolates
  rw [none, List.forall₂_nil_left_iff] at errors
  rw [all] at named
  exact ⟨errors, named⟩

/-- Over a scope without faulty schemas a pass returns without errors, or stops at a shared name. -/
theorem generate_cases (sound : ∀ schema ∈ schemas, schema.Indexable)
    (options : GenerationOptions) :
    (∃ generation, generate options schemas = .ok generation ∧ generation.errors = [] ∧
      generation.schemas = schemas.map (·.name)) ∨
    ∃ name, generate options schemas = .error (.duplicateSchema name) ∧
      IsFirstRepeat (schemas.map (·.name)) name := by
  have fails := failsInOrder_generate options schemas
  cases generated : generate options schemas with
  | ok generation =>
    exact .inl ⟨generation, rfl, (isolates_of_generate generated).of_indexable sound⟩
  | error error =>
    cases error with
    | duplicateSchema name => exact .inr ⟨name, rfl, (fails.sharedName name).1 generated⟩
    | duplicateField fault =>
      obtain ⟨-, -, schema, member, faulty⟩ := fails.faulty_iff.1 ⟨fault, generated⟩
      exact absurd (sound schema member) faulty

end Scope

/-- No schema of an extracted record type declares a field twice. -/
theorem Extracts.indexable {marker : String} {classes : List RecordClass}
    {records : List RecordType} (extracts : Extracts marker classes records) :
    ∀ schema ∈ records.reverse.map (·.schema), schema.Indexable := by
  refine List.forall_mem_map.2 fun record member => ?_
  have distinct := extracts.nodup_fields record (List.mem_reverse.1 member)
  rwa [Schema.Indexable, Schema.fieldNames, RecordType.schema, List.map_map]

namespace Schema

/-- No schema of a module that is extracted declares a field twice. Under any options a pass over
its schemas is the same whether it is strict or not, and it returns without errors or stops at the
first name that an earlier schema has; it stops exactly if two record classes share their name. -/
theorem generate_ofModule {file marker text : String} {schemas : List Schema}
    (extracted : ofModule file marker text = .ok schemas) :
    (∀ schema ∈ schemas, schema.fieldNames.Nodup) ∧
    ∃ statements selected, Source.readModule text = .ok statements ∧
      RecordClass.Selects (RecordClass.ofStatements statements).reverse selected ∧
      ∀ options : GenerationOptions,
        Scope.generate { options with strict := true } schemas =
          Scope.generate { options with strict := false } schemas ∧
        ((∃ generation, Scope.generate options schemas = .ok generation ∧
            generation.errors = [] ∧ generation.schemas = schemas.map (·.name)) ∨
          ∃ name, Scope.generate options schemas = .error (.duplicateSchema name) ∧
            IsFirstRepeat (schemas.map (·.name)) name) ∧
        ((∃ name, Scope.generate options schemas = .error (.duplicateSchema name)) ↔
          ¬ (selected.map (·.name)).Nodup) := by
  obtain ⟨statements, selected, records, found, selects, extracts, rfl⟩ :=
    selects_of_ofModule extracted
  have sound := extracts.indexable
  refine ⟨sound, statements, selected, found, selects, fun options => ⟨?_, ?_, ?_⟩⟩
  · exact Scope.generate_strict_eq sound options
  · exact Scope.generate_cases sound options
  · rw [(Scope.failsInOrder_generate options _).sharesName_iff, extracts.names_schemas,
      List.map_reverse, List.nodup_reverse]

/-- A module whose class `C` declares a field twice that both its bases declare. -/
def redeclaringModule : String :=
  "class A(BaseModel):\n    x: int\n    y: int\nclass B(BaseModel):\n    x: str\n    z: int\n" ++
    "class C(A, B):\n    x: bytes\n    x: float\n"

/-- The fields of `C` are distinct, and a pass over the three schemas returns without errors. -/
theorem generate_redeclaringModule : ∃ schemas,
    ofModule "models.py" "Optional" redeclaringModule = .ok schemas ∧
    schemas.map (·.fieldNames) = [["x", "y"], ["x", "z"], ["x", "z", "y"]] ∧
    ∃ generation, Scope.generate { strict := true } schemas = .ok generation ∧
      generation.errors = [] ∧ generation.schemas = ["A", "B", "C"] := by
  have found : (ofModule "models.py" "Optional" redeclaringModule).toOption.map
      (fun schemas => (schemas.map (·.fieldNames), schemas.map (·.name))) =
        some ([["x", "y"], ["x", "z"], ["x", "z", "y"]], ["A", "B", "C"]) := by
    decide +kernel
  obtain ⟨schemas, isExtracted, both⟩ := Option.map_eq_some_iff.1 found
  obtain ⟨fields, names⟩ := Prod.mk.inj both
  have extracted := eq_ok_of_toOption isExtracted
  obtain ⟨-, statements, selected, -, -, passes⟩ := generate_ofModule extracted
  obtain ⟨-, outcome, -⟩ := passes { strict := true }
  rw [names] at outcome
  have apart : ¬ ∃ name, IsFirstRepeat ["A", "B", "C"] name := by
    rw [exists_isFirstRepeat_iff]
    decide
  refine ⟨schemas, extracted, fields, outcome.resolve_right ?_⟩
  rintro ⟨name, -, shared⟩
  exact apart ⟨name, shared⟩

end Schema

end Fieldwise
