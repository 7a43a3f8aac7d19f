import Fieldwise.Proofs.Schema.Extraction
import Fieldwise.Proofs.Schema.Quotation
import Fieldwise.Proofs.Type.Faults

/-! # Errors of extraction

The search for record types stops at the first class that cannot be one, and in the class at the first
declaration that fails. The error names the class and is reported, unless it comes from an annotation
whose first fault is a missing argument: then the search breaks off
(`Schema.ofModule_contained`). -/

namespace Fieldwise

open Source (Expr Statement ClassHead AnnotationPart)

variable {marker : String} {error : ClassError}

namespace RecordType

/-- Whether a class makes a record type, given those before it. -/
def isRecordClass (records : List RecordType) (head : ClassHead) : Bool :=
  head.bases.any (isModelBase records) || head.decorators.any decorates

/-- Statements behind others are searched with the record types of these, unless the search has
stopped. -/
theorem ofStatements_append (records : List RecordType) (before after : List Statement) :
    ofStatements marker records (before ++ after) =
      if (ofStatements marker records before).2 = none then
        ofStatements marker (ofStatements marker records before).1 after
      else ofStatements marker records before := by
  induction before generalizing records with
  | nil => rfl
  | cons statement rest ih =>
    cases statement with
    | classDefinition head body =>
      rw [List.cons_append, ofStatements, ofStatements]
      by_cases isRecord : (head.bases.any (isModelBase records) || head.decorators.any decorates) = true
      · rw [if_pos isRecord, if_pos isRecord]
        cases ofClass marker records (head.bases.any (isModelBase records)) head body with
        | error _ => rfl
        | ok record => exact ih (record :: records)
      · rw [if_neg isRecord, if_neg isRecord]
        exact ih records
    | annotated _ _ _ => exact ih records
    | assigned _ _ => exact ih records
    | other => exact ih records

/-- A single statement stops the search if it is a class that cannot be the record type that it is to
make. -/
theorem ofStatements_singleton_eq_some_iff (records : List RecordType) (statement : Statement)
    (head : ClassHead) (error : ClassError) :
    (ofStatements marker records [statement]).2 = some (head, error) ↔
      ∃ body, statement = .classDefinition head body ∧ isRecordClass records head ∧
        ofClass marker records (head.bases.any (isModelBase records)) head body =
          .error error := by
  cases statement with
  | classDefinition found body =>
    rw [ofStatements]
    by_cases isRecord : isRecordClass records found = true
    · rw [isRecordClass] at isRecord
      rw [if_pos isRecord]
      cases made : ofClass marker records (found.bases.any (isModelBase records)) found body with
      | error _ =>
        constructor
        · intro same
          cases same
          exact ⟨body, rfl, isRecord, made⟩
        · rintro ⟨_, same, -, failed⟩
          cases same
          rw [made] at failed
          cases failed
          rfl
      | ok record =>
        constructor
        · rintro ⟨⟩
        · rintro ⟨_, same, -, failed⟩
          cases same
          rw [made] at failed
          cases failed
    · rw [isRecordClass] at isRecord
      rw [if_neg isRecord]
      constructor
      · rintro ⟨⟩
      · rintro ⟨_, same, other, -⟩
        cases same
        exact absurd other isRecord
  | _ =>
    constructor
    · rintro ⟨⟩
    · rintro ⟨_, ⟨⟩, _⟩

/-- The search stops with an error exactly at a class that cannot be the record type that it is to
make, behind statements that are searched to their end. -/
theorem ofStatements_eq_some_iff (records : List RecordType) (statements : List Statement)
    (head : ClassHead) (error : ClassError) :
    (ofStatements marker records statements).2 = some (head, error) ↔
      ∃ before statement after, statements = before ++ statement :: after ∧
        (ofStatements marker records before).2 = none ∧
        (ofStatements marker (ofStatements marker records before).1 [statement]).2 =
          some (head, error) := by
  constructor
  · intro stopped
    induction statements generalizing records with
    | nil => cases stopped
    | cons statement rest ih =>
      have split : ofStatements marker records (statement :: rest) = _ :=
        ofStatements_append records [statement] rest
      by_cases searched : (ofStatements marker records [statement]).2 = none
      · rw [split, if_pos searched] at stopped
        obtain ⟨before, last, after, rfl, none, failed⟩ := ih _ stopped
        have longer : ofStatements marker records (statement :: before) = _ :=
          ofStatements_append records [statement] before
        rw [if_pos searched] at longer
        rw [← longer] at none failed
        exact ⟨statement :: before, last, after, rfl, none, failed⟩
      · rw [split, if_neg searched] at stopped
        exact ⟨[], statement, rest, rfl, rfl, stopped⟩
  · rintro ⟨before, statement, after, rfl, searched, failed⟩
    rw [ofStatements_append, if_pos searched, ← List.singleton_append, ofStatements_append,
      if_neg (by rw [failed]; exact Option.some_ne_none _)]
    exact failed

/-- A name is never the cause that an annotation is. -/
theorem failure?_checkName_ne (model subject name : String) (fault : DeclaredError) :
    failure? (checkName model subject name) ≠ some (.undeclared fault) := by
  rw [checkName]
  split <;> simp [failure?]

/-- An annotated name fails to declare a field with the first fault of the annotation, then with its
name. -/
theorem failure?_field? (visible : Text.isBlankText marker = false) (text : String) (type : Expr)
    (value : Option Expr) : failure? (field? marker (.annotated (.name text) type value)) =
      if text = defaultAttribute || isSkipped type then none
      else ((type.parts.findSome? AnnotationPart.fault?).map .undeclared).or
        (failure? (checkName "FieldDescriptor" "field" text)) := by
  rw [field?]
  split
  · rfl
  · rw [failure?_bind fun _ => failure?_map _ _, failure?_mapError,
      Expr.failure?_declaredType visible]

/-- A statement fails because of an annotation if it declares a field and that is the first fault of
its annotation. -/
theorem failure?_field?_eq_undeclared_iff (visible : Text.isBlankText marker = false)
    (statement : Statement) (fault : DeclaredError) :
    failure? (field? marker statement) = some (.undeclared fault) ↔
      ∃ text type value, statement = .annotated (.name text) type value ∧
        text ≠ defaultAttribute ∧ isSkipped type = false ∧
        type.parts.findSome? AnnotationPart.fault? = some fault := by
  constructor
  · intro failed
    match statement with
    | .annotated (.name text) type value =>
      rw [failure?_field? visible] at failed
      split at failed
      · cases failed
      · rename_i isField
        simp only [Bool.or_eq_true, decide_eq_true_eq, not_or, Bool.not_eq_true] at isField
        refine ⟨text, type, value, rfl, isField.1, isField.2, ?_⟩
        have named := failure?_checkName_ne "FieldDescriptor" "field" text fault
        cases faults : type.parts.findSome? AnnotationPart.fault? with
        | none =>
          rw [faults] at failed
          exact absurd failed named
        | some found =>
          rw [faults] at failed
          cases failed
          rfl
  · rintro ⟨text, type, value, rfl, isField, kept, faults⟩
    rw [failure?_field? visible, if_neg (by simp [isField, kept]), faults]
    rfl

/-- A class body declares its fields unless one of its statements fails; the first failure is the
error. -/
theorem failure?_ownFields (body : List Statement) :
    failure? (ownFields marker body) =
      body.findSome? fun statement => failure? (field? marker statement) := by
  induction body with
  | nil => rfl
  | cons statement rest ih =>
    rw [ownFields, failure?_bind fun _ => (failure?_map _ _).trans ih, List.findSome?_cons]
    cases failure? (field? marker statement) <;> rfl

/-- A class has no record type because of an annotation exactly if its body fails to declare a field
because of it. -/
theorem ofClass_eq_undeclared_iff (records : List RecordType) (isModel : Bool) (head : ClassHead)
    (body : List Statement) (fault : DeclaredError) :
    ofClass marker records isModel head body = .error (.undeclared fault) ↔
      failure? (ownFields marker body) = some (.undeclared fault) := by
  rw [← failure?_eq_some_iff, ofClass, failure?_bind fun _ => failure?_map _ _]
  have named := failure?_checkName_ne "Schema" "schema" head.name fault
  cases failure? (ownFields marker body) with
  | none => simp [named]
  | some _ => rfl

end RecordType

/-- An annotation in a place breaks the search off: everything before it is searched and declared, its
class is to make a record type, it declares a field, and its first fault is a missing argument. -/
structure AnnotationPlace.BreaksOff (marker : String) (place : AnnotationPlace) (type : Expr) :
    Prop where
  searched : (RecordType.ofStatements marker [] place.before).2 = none
  isRecord : RecordType.isRecordClass (RecordType.ofStatements marker [] place.before).1 place.head
  declared : ∃ own, RecordType.ownFields marker place.front = .ok own
  isField : place.fieldName?.isSome
  kept : RecordType.isSkipped type = false
  missing : type.parts.findSome? AnnotationPart.fault? = some .noArgument

/-- A class body fails with a missing argument exactly in a place for an annotation behind fields that
are declared. -/
theorem RecordType.failure?_ownFields_eq_noArgument_iff (visible : Text.isBlankText marker = false)
    (body : List Statement) :
    failure? (ownFields marker body) = some (.undeclared .noArgument) ↔
      ∃ front target type value back, body = front ++ .annotated target type value :: back ∧
        (∃ own, ownFields marker front = .ok own) ∧
        (∃ text, target = .name text ∧ text ≠ defaultAttribute) ∧ isSkipped type = false ∧
        type.parts.findSome? AnnotationPart.fault? = some .noArgument := by
  rw [failure?_ownFields, List.findSome?_eq_some_iff]
  constructor
  · rintro ⟨front, statement, back, rfl, failed, before⟩
    obtain ⟨text, type, value, rfl, isField, kept, faults⟩ :=
      (failure?_field?_eq_undeclared_iff visible _ _).1 failed
    have declared := (failure?_ownFields front).trans (List.findSome?_eq_none_iff.2 before)
    exact ⟨front, _, type, value, back, rfl, (failure?_eq_none_iff _).1 declared,
      ⟨text, rfl, isField⟩, kept, faults⟩
  · rintro ⟨front, _, type, value, back, rfl, declared, ⟨text, rfl, isField⟩, kept, faults⟩
    have before := (failure?_eq_none_iff _).2 declared
    rw [failure?_ownFields, List.findSome?_eq_none_iff] at before
    exact ⟨front, _, back, rfl, (failure?_field?_eq_undeclared_iff visible _ _).2
      ⟨text, type, value, rfl, isField, kept, faults⟩, before⟩

theorem AnnotationPlace.isSome_fieldName?_iff (place : AnnotationPlace) :
    place.fieldName?.isSome ↔
      ∃ text, place.target = .name text ∧ text ≠ RecordType.defaultAttribute := by
  rw [fieldName?]
  split
  · rename_i text same
    rw [same]
    by_cases reserved : text = RecordType.defaultAttribute <;> simp [reserved]
  · rename_i noName
    refine iff_of_false Bool.false_ne_true ?_
    rintro ⟨text, same, -⟩
    exact noName text same

/-- The search stops with a missing argument exactly if an annotation breaks it off. -/
theorem RecordType.ofStatements_eq_noArgument_iff (visible : Text.isBlankText marker = false)
    (statements : List Statement) :
    (∃ head, (ofStatements marker [] statements).2 = some (head, .undeclared .noArgument)) ↔
      ∃ place type, statements = place.fill type ∧
        AnnotationPlace.BreaksOff marker place type := by
  constructor
  · rintro ⟨head, stopped⟩
    obtain ⟨before, statement, after, rfl, searched, failed⟩ :=
      (ofStatements_eq_some_iff _ _ _ _).1 stopped
    obtain ⟨body, rfl, isRecord, unmade⟩ := (ofStatements_singleton_eq_some_iff _ _ _ _).1 failed
    obtain ⟨front, target, type, value, back, rfl, declared, isField, kept, missing⟩ :=
      (failure?_ownFields_eq_noArgument_iff visible _).1
        ((ofClass_eq_undeclared_iff _ _ _ _ _).1 unmade)
    let place : AnnotationPlace := ⟨before, head, front, target, value, back, after⟩
    exact ⟨place, type, rfl, searched, isRecord, declared, place.isSome_fieldName?_iff.2 isField,
      kept, missing⟩
  · rintro ⟨place, type, rfl, searched, isRecord, declared, isField, kept, missing⟩
    have unmade := (failure?_ownFields_eq_noArgument_iff visible _).2
      ⟨place.front, place.target, type, place.value, place.back, rfl, declared,
        place.isSome_fieldName?_iff.1 isField, kept, missing⟩
    refine ⟨place.head, (ofStatements_eq_some_iff _ _ _ _).2
      ⟨place.before, _, place.after, rfl, searched, ?_⟩⟩
    exact (ofStatements_singleton_eq_some_iff _ _ _ _).2
      ⟨_, rfl, isRecord, (ofClass_eq_undeclared_iff _ _ _ _ _).2 unmade⟩

namespace Schema

/-- An error of a module that is read names the class that the search stopped at. -/
theorem ofModule_eq_error_iff {text : String} {statements : List Statement}
    (found : Source.readModule text = .ok statements) (file : String) (error : ExtractionError) :
    ofModule file marker text = .error error ↔ ∃ head cause,
      (RecordType.ofStatements marker [] statements).2 = some (head, cause) ∧
        error = .classFault file head.line head.name cause := by
  rw [ofModule, scanModule, found]
  dsimp only
  rw [ofStatements]
  cases stopped : (RecordType.ofStatements marker [] statements).2 with
  | none => simp only [stopped, Option.map_none, reduceCtorEq, false_and, exists_false]
  | some fault =>
    simp only [stopped, Option.map_some, Except.error.injEq, Option.some.injEq]
    constructor
    · rintro rfl
      exact ⟨_, _, rfl, rfl⟩
    · rintro ⟨_, _, rfl, rfl⟩
      rfl

/-- Of the errors of a class only a missing argument is not reported. -/
theorem isReported_classFault_iff (file : String) (line : Nat) (name : String)
    (cause : ClassError) : (ExtractionError.classFault file line name cause).isReported = false ↔
      cause = .undeclared .noArgument := by
  unfold ExtractionError.isReported
  split <;> simp_all

/-- Extraction from a module that is read gives well-named schemas or an error that names a class of
the module. The error is reported unless an annotation breaks the search off, by an `Annotated`
without arguments in the place of a type. -/
theorem ofModule_contained (visible : Text.isBlankText marker = false) {text : String}
    {statements : List Statement} (found : Source.readModule text = .ok statements)
    (file : String) :
    (∀ type : Expr, failure? (type.declaredType marker) =
      type.parts.findSome? AnnotationPart.fault?) ∧
    (∀ schemas, ofModule file marker text = .ok schemas → ∀ schema ∈ schemas, schema.WellNamed) ∧
    (∀ error, ofModule file marker text = .error error → ∃ head body cause,
      .classDefinition head body ∈ statements ∧
        error = .classFault file head.line head.name cause) ∧
    ((∃ error, ofModule file marker text = .error error ∧ error.isReported = false) ↔
      ∃ place type, statements = place.fill type ∧
        AnnotationPlace.BreaksOff marker place type) ∧
    ∀ place type, AnnotationPlace.BreaksOff marker place type → type.LacksArgument := by
  have stopped (error : ExtractionError) : ofModule file marker text = .error error ↔ _ :=
    ofModule_eq_error_iff found file error
  refine ⟨Expr.failure?_declaredType visible, fun schemas => wellNamed_of_ofModule, ?_, ?_, ?_⟩
  · intro error failed
    obtain ⟨head, cause, same, rfl⟩ := (stopped error).1 failed
    obtain ⟨before, _, after, rfl, -, failed⟩ :=
      (RecordType.ofStatements_eq_some_iff _ _ _ _).1 same
    obtain ⟨body, rfl, -⟩ := (RecordType.ofStatements_singleton_eq_some_iff _ _ _ _).1 failed
    exact ⟨head, body, cause, List.mem_append_right _ List.mem_cons_self, rfl⟩
  · rw [← RecordType.ofStatements_eq_noArgument_iff visible]
    constructor
    · rintro ⟨error, failed, unreported⟩
      obtain ⟨head, cause, same, rfl⟩ := (stopped error).1 failed
      rw [(isReported_classFault_iff _ _ _ _).1 unreported] at same
      exact ⟨head, same⟩
    · rintro ⟨head, same⟩
      exact ⟨_, (stopped _).2 ⟨head, _, same, rfl⟩, rfl⟩
  · intro place type breaks
    obtain ⟨_, part, _, split, fault, -⟩ := List.findSome?_eq_some_iff.1 breaks.missing
    rw [← Expr.missing_mem_parts_iff, split,
      (AnnotationPart.fault?_eq_noArgument_iff part).1 fault]
    exact List.mem_append_right _ List.mem_cons_self

/-- A module with a quoted `Annotated` without arguments. -/
def quotedMetadataModule : String :=
  "@dataclass\nclass A:\n    x: \"Annotated[()]\"\n"

/-- The quotation is no text of a type, so the field has it as an opaque name, and nothing breaks the
search off. -/
theorem ofModule_contained_quotedMetadataModule : Text.isBlankText "Optional" = false ∧
    ∃ statements, Source.readModule quotedMetadataModule = .ok statements ∧
      ofModule "models.py" "Optional" quotedMetadataModule =
        .ok [⟨"A", [⟨"x", .bare "'Annotated[()]'"⟩], false⟩] ∧
      ¬ ∃ place type, statements = place.fill type ∧
        AnnotationPlace.BreaksOff "Optional" place type := by
  have visible : Text.isBlankText "Optional" = false := by decide
  have extracted : ofModule "models.py" "Optional" quotedMetadataModule =
      .ok [⟨"A", [⟨"x", .bare "'Annotated[()]'"⟩], false⟩] :=
    eq_ok_of_toOption (by decide +kernel)
  obtain ⟨statements, found, -⟩ := ofModule_eq_ok extracted
  refine ⟨visible, statements, found, extracted, fun breaks => ?_⟩
  obtain ⟨error, failed, -⟩ := (ofModule_contained visible found "models.py").2.2.2.1.2 breaks
  rw [extracted] at failed
  cases failed

/-- A module with an `Annotated` without arguments. -/
def emptyMetadataModule : String :=
  "@dataclass\nclass A:\n    x: Annotated[()]\n"

/-- The module is read, but the search for its record types breaks off. -/
theorem ofModule_emptyMetadataModule : Text.isBlankText "Optional" = false ∧
    (∃ statements, Source.readModule emptyMetadataModule = .ok statements) ∧
    ∃ error, ofModule "models.py" "Optional" emptyMetadataModule = .error error ∧
      error.isReported = false ∧ error.message = "list index out of range" := by
  have broken : failure? (ofModule "models.py" "Optional" emptyMetadataModule) =
      some (.classFault "models.py" 2 "A" (.undeclared .noArgument)) := by
    decide +kernel
  have read : (Source.readModule emptyMetadataModule).toOption.isSome := by
    decide +kernel
  obtain ⟨statements, found⟩ := Option.isSome_iff_exists.1 read
  exact ⟨by decide, ⟨statements, eq_ok_of_toOption found⟩, _,
    (failure?_eq_some_iff _ _).1 broken, rfl, by decide⟩

end Schema

end Fieldwise
