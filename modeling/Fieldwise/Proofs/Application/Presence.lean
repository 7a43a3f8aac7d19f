import Fieldwise.Manifest
import Fieldwise.Proofs.Application.Moves
import Fieldwise.Proofs.Scope.Emission
import Fieldwise.Proofs.Type.Grammar

/-! # Which operations clear a field

A field is cleared if it holds a present value before a run and none after it. Whether an assignment
tests the presence of what it reads depends on the marker alone, but absence is admitted by more
types: by `None` itself and by every union with `None`. A field of such a type is plain, so a null in
it is written. `Scope.clearsNothing_iff` shows that nothing else clears a field. -/

namespace Fieldwise

/-- A type that admits absence: `None`, the marker applied to a type, or a union with `None`. -/
def TypeExpr.Nullable (marker : String) (type : TypeExpr) : Prop :=
  type = none ∨ (type.shape marker).optional ∨ (type.name = "Union" ∧ none ∈ type.arguments)

instance (marker : String) (type : TypeExpr) : Decidable (type.Nullable marker) :=
  inferInstanceAs (Decidable (_ ∨ _ ∨ _))

/-- A record is null only in fields whose declared types admit it. -/
def Schema.ConformsTo (marker : String) (schema : Schema) (record : Record) : Prop :=
  ∀ field ∈ schema.fields, record.fields.lookup field.name = some .null →
    field.type.Nullable marker

def Record.HasPresent (record : Record) (name : String) : Prop :=
  ∃ value, record.fields.lookup name = some value ∧ value.isPresent

/-- Carries out an operation on a target, which for a conversion is the default one. -/
def Operation.run (operation : Operation) (target source : Record) : Applied :=
  match operation.kind with
  | .move => operation.applyMove target source
  | .convert => operation.applyConversion source target

/-- No run of an operation from a record that conforms to a schema clears a field. -/
def Operation.ClearsNothing (marker : String) (source : Schema) (operation : Operation) : Prop :=
  ∀ record before name, source.ConformsTo marker record → before.HasPresent name →
    (operation.run before record).target.HasPresent name

/-- Every field of the source that admits absence and is assigned to the target is optional. -/
def Schema.Guarded (marker : String) (source target : Schema) : Prop :=
  ∀ sourceField ∈ source.fields, ∀ targetField ∈ target.fields,
    sourceField.Agrees marker targetField → sourceField.type.Nullable marker →
      (sourceField.type.shape marker).optional

theorem Operation.run_eq (operation : Operation) (target source : Record) :
    operation.run target source = applyAll (fun _ => source) target operation.correspondences := by
  rw [run]
  split
  · rename_i moves
    rw [applyMove, applyAs, if_pos moves]
  · rename_i converts
    rw [applyConversion, applyAs, if_pos converts]

theorem Datum.eq_null_of_absent {value : Datum} (absent : ¬ value.isPresent) : value = .null := by
  cases value with
  | null => rfl
  | _ => exact absurd rfl absent

/-- Only a plain assignment writes an absent value. -/
theorem Correspondence.plain_of_written {assignment : Correspondence} {source : Record}
    {value : Datum} (written : assignment.written? source = some value)
    (absent : ¬ value.isPresent) : assignment.kind.requiresPresence = false ∧
      source.fields.lookup assignment.sourceField = some .null := by
  obtain ⟨found, kept⟩ := Option.filter_eq_some_iff.1 written
  rw [Bool.or_eq_true, Bool.not_eq_true'] at kept
  refine ⟨kept.resolve_right absent, ?_⟩
  rw [found, Datum.eq_null_of_absent absent]

section

variable {marker : String} {source target : Schema} {assignments : List Correspondence}

/-- What a run clears is null in a plain field of the source that agrees with the cleared one. -/
theorem Schema.Matched.null_of_cleared (matched : source.Matched marker target assignments)
    {record before : Record} {name : String} (held : before.HasPresent name)
    (cleared : ¬ (applyAll (fun _ => record) before assignments).target.HasPresent name) :
    ∃ sourceField ∈ source.fields, ∃ targetField ∈ target.fields,
      targetField.name = name ∧ sourceField.Agrees marker targetField ∧
        (sourceField.type.shape marker).optional = false ∧
        record.fields.lookup sourceField.name = some .null := by
  rcases lookup_applyAll record before assignments name with
    kept | ⟨assignment, member, named, value, written, after⟩
  · rw [Record.HasPresent, kept] at cleared
    exact absurd held cleared
  · obtain ⟨sourceField, sourceMember, targetField, targetMember, agrees, rfl⟩ :=
      (matched.mem_iff assignment).1 member
    have absent : ¬ value.isPresent := fun present => cleared ⟨value, after, present⟩
    obtain ⟨plain, null⟩ := Correspondence.plain_of_written written absent
    rw [Field.correspondence, MatchKind.requiresPresence_ofOptional] at plain
    rw [Field.correspondence, ← agrees.1] at null
    exact ⟨sourceField, sourceMember, targetField, targetMember, named, agrees, plain, null⟩

/-- The record that is null wherever its schema admits it. -/
def Schema.emptiest (marker : String) (schema : Schema) : Record where
  access := .mapping
  typeName := schema.name
  fields := schema.fields.map fun field =>
    (field.name, if field.type.Nullable marker then .null else .flag true)

theorem Schema.lookup_emptiest (indexable : source.Indexable) {field : Field}
    (member : field ∈ source.fields) : (source.emptiest marker).fields.lookup field.name =
      some (if field.type.Nullable marker then .null else .flag true) :=
  lookup_map_of_mem _ indexable member

theorem Schema.conformsTo_emptiest (indexable : source.Indexable) :
    source.ConformsTo marker (source.emptiest marker) := by
  intro field member null
  rw [lookup_emptiest indexable member, Option.some.injEq] at null
  by_contra solid
  rw [if_neg solid] at null
  cases null

/-- A plain field that admits absence clears the field that it is assigned to. -/
theorem Schema.Matched.cleared_of_plain (matched : source.Matched marker target assignments)
    (sourceIndexable : source.Indexable) (targetIndexable : target.Indexable)
    {sourceField targetField : Field} (sourceMember : sourceField ∈ source.fields)
    (targetMember : targetField ∈ target.fields) (agrees : sourceField.Agrees marker targetField)
    (nullable : sourceField.type.Nullable marker)
    (plain : (sourceField.type.shape marker).optional = false) {before : Record}
    (writable : before.access = .mapping) :
    ¬ (applyAll (fun _ => source.emptiest marker) before assignments).target.HasPresent
      targetField.name := by
  have defined : ∀ assignment ∈ assignments,
      ((source.emptiest marker).fields.lookup assignment.sourceField).isSome := by
    intro assignment member
    obtain ⟨field, fieldMember, other, -, named, rfl⟩ := (matched.mem_iff assignment).1 member
    rw [Field.correspondence, ← named.1, lookup_emptiest sourceIndexable fieldMember]
    rfl
  have member : sourceField.correspondence marker targetField ∈ assignments :=
    (matched.mem_iff _).2 ⟨sourceField, sourceMember, targetField, targetMember, agrees, rfl⟩
  have fires : (sourceField.correspondence marker targetField).Fires (source.emptiest marker) :=
    .inl ((MatchKind.requiresPresence_ofOptional _ _).trans plain)
  have feasible : Feasible assignments (source.emptiest marker) before :=
    ⟨defined, fun _ _ _ => .mapping writable⟩
  have after :=
    feasible.lastFiring.lookup_of_mem (matched.ordered.nodup targetIndexable) member fires
  rw [Field.correspondence, ← agrees.1, lookup_emptiest sourceIndexable sourceMember,
    if_pos nullable] at after
  rw [feasible.applyAll_eq, ← agrees.1]
  rintro ⟨value, held, present⟩
  cases after.symm.trans held
  cases present

end

/-- An operation of a scope clears nothing exactly if no nullable field that it assigns is plain. -/
theorem Scope.clearsNothing_iff {options : GenerationOptions} {schemas : List Schema}
    {generation : Generation} (generated : generate options schemas = .ok generation)
    {operation : Operation} (emitted : operation ∈ generation.operations) {source target : Schema}
    (sourceMember : source ∈ schemas) (targetMember : target ∈ schemas)
    (sourceNamed : operation.sourceSchema = source.name)
    (targetNamed : operation.targetSchema = target.name) :
    operation.ClearsNothing options.marker source ↔ source.Guarded options.marker target := by
  obtain ⟨distinct, same⟩ := operations_of_generate generated
  rw [same] at emitted
  have matched := matched_of_mem_operations distinct emitted sourceMember targetMember sourceNamed
    targetNamed
  obtain ⟨sourceIndexable, targetIndexable, -⟩ := emits_of_mem_operations distinct emitted
    sourceMember targetMember sourceNamed targetNamed
  constructor
  · intro kept sourceField sourceIn targetField targetIn agrees nullable
    by_contra plain
    let before : Record := ⟨.mapping, target.name, [(targetField.name, .flag true)]⟩
    have held : before.HasPresent targetField.name := ⟨.flag true, List.lookup_cons_self, rfl⟩
    have after := kept _ before targetField.name (Schema.conformsTo_emptiest sourceIndexable) held
    rw [Operation.run_eq] at after
    exact matched.cleared_of_plain sourceIndexable targetIndexable sourceIn targetIn agrees nullable
      (Bool.eq_false_iff.2 plain) rfl after
  · intro guarded record before name conforms held
    by_contra cleared
    rw [Operation.run_eq] at cleared
    obtain ⟨sourceField, sourceIn, targetField, targetIn, -, agrees, plain, null⟩ :=
      matched.null_of_cleared held cleared
    have optional := guarded sourceField sourceIn targetField targetIn agrees
      (conforms sourceField sourceIn null)
    rw [plain] at optional
    cases optional

/-- An optional field is tested before it is written. -/
theorem Scope.clearsNothing_optional :
    let schema : Schema := ⟨"A", [⟨"a", .mk "Optional" [.bare "int"]⟩], false⟩
    let operation : Operation := ⟨.move, "A", "A", [⟨"a", "a", .optionalToOptional⟩]⟩
    ∃ generation, generate {} [schema] = .ok generation ∧ operation ∈ generation.operations ∧
      operation.ClearsNothing "Optional" schema := by
  intro schema operation
  obtain ⟨generation, generated, emitted⟩ : ∃ generation,
      generate {} [schema] = .ok generation ∧ operation ∈ generation.operations :=
    ⟨_, generate_of_distinct rfl (List.nodup_singleton _), by decide⟩
  have member : schema ∈ [schema] := List.mem_singleton_self schema
  refine ⟨generation, generated, emitted,
    (clearsNothing_iff generated emitted member member rfl rfl).2 ?_⟩
  intro sourceField sourceIn targetField _ _ _
  rw [List.mem_singleton.1 sourceIn]
  rfl

/-- Three alternatives with `None` among them are read as a union, which is plain, so a null in it
is written. -/
theorem Scope.clears_union :
    ∃ type, TypeExpr.read "Optional" "int | str | None" = .ok type ∧
      let schema : Schema := ⟨"A", [⟨"a", type⟩], false⟩
      ∃ generation, generate {} [schema] = .ok generation ∧
        ∃ operation ∈ generation.operations, ¬ operation.ClearsNothing "Optional" schema := by
  let type : TypeExpr := .mk "Union" [.bare "int", .bare "str", .none]
  let schema : Schema := ⟨"A", [⟨"a", type⟩], false⟩
  let operation : Operation := ⟨.move, "A", "A", [⟨"a", "a", .plainToPlain⟩]⟩
  let tokens : List Token :=
    [.word "int", .mark .bar, .word "str", .mark .bar, .word "None"]
  have scanned : (Token.scan "int | str | None").toOption = some tokens := by decide +kernel
  have derived : TypeExpr.DerivesUnion "Optional" tokens type :=
    .intro (.more (.bare "int") (.more (.bare "str") (.last (.bare "None")))) rfl
  have read : TypeExpr.read "Optional" "int | str | None" = .ok type := by
    cases found : Token.scan "int | str | None" with
    | error _ => simp [found, Except.toOption] at scanned
    | ok _ =>
      obtain rfl : _ = tokens := by simpa [found, Except.toOption] using scanned
      exact TypeExpr.read_of_derives found derived
  obtain ⟨generation, generated, emitted⟩ : ∃ generation,
      generate {} [schema] = .ok generation ∧ operation ∈ generation.operations :=
    ⟨_, generate_of_distinct rfl (List.nodup_singleton _), by decide⟩
  refine ⟨type, read, generation, generated, operation, emitted, fun kept => ?_⟩
  let record : Record := ⟨.mapping, "A", [("a", .null)]⟩
  let before : Record := ⟨.mapping, "A", [("a", .whole 5)]⟩
  have conforms : schema.ConformsTo "Optional" record := by
    intro field member _
    rw [List.mem_singleton.1 member]
    decide
  obtain ⟨value, after, present⟩ := kept record before "a" conforms ⟨.whole 5, rfl, rfl⟩
  cases after
  cases present

end Fieldwise
