import Fieldwise.Proofs.Type.Declaration

/-! # Extracted schemas and their manifests

Every field of a record type is declared in the body of some class (`forall_ofStatements`), so all
names of extracted schemas are accepted. Their types need not be canonical: what is no type is kept
as one opaque name. Exactly if they are all canonical, the manifest of the schemas is loaded as
these schemas (`reload_ofModule`). -/

namespace Fieldwise

open Source (Expr Statement)

variable {marker : String}

/-! ## Where fields come from -/

namespace RecordType

theorem mem_putField {new field : RecordField} {fields : List RecordField}
    (member : field ∈ putField new fields) : field = new ∨ field ∈ fields := by
  induction fields with
  | nil => exact .inl (List.mem_singleton.1 member)
  | cons old rest ih =>
    rw [putField] at member
    split at member
    · rcases List.mem_cons.1 member with same | inside
      · exact .inl same
      · exact .inr (List.mem_cons_of_mem _ inside)
    · rcases List.mem_cons.1 member with rfl | inside
      · exact .inr List.mem_cons_self
      · rcases ih inside with same | inside
        · exact .inl same
        · exact .inr (List.mem_cons_of_mem _ inside)

/-- Laying fields over others brings in no field from elsewhere. -/
theorem mem_overlay {field : RecordField} {fields upper : List RecordField}
    (member : field ∈ overlay fields upper) : field ∈ fields ∨ field ∈ upper := by
  induction upper generalizing fields with
  | nil => exact .inl member
  | cons new rest ih =>
    rcases ih member with inside | inside
    · rcases mem_putField inside with rfl | inside
      · exact .inr List.mem_cons_self
      · exact .inl inside
    · exact .inr (List.mem_cons_of_mem _ inside)

theorem mem_of_base? {records : List RecordType} {base : Expr} {record : RecordType}
    (found : base? records base = some record) : record ∈ records := by
  obtain ⟨name, -, named⟩ := Option.bind_eq_some_iff.1 found
  exact List.mem_of_find?_eq_some named

/-- Laying the fields of record types over each other brings in no others. -/
theorem mem_foldl_overlay {field : RecordField} {found : List RecordType} {done : List RecordField}
    (member : field ∈ found.foldl (fun done record => overlay done record.fields) done) :
    field ∈ done ∨ ∃ record ∈ found, field ∈ record.fields := by
  induction found generalizing done with
  | nil => exact .inl member
  | cons record rest ih =>
    rcases ih member with inside | ⟨later, laterIn, inside⟩
    · rcases mem_overlay inside with inside | inside
      · exact .inl inside
      · exact .inr ⟨record, List.mem_cons_self, inside⟩
    · exact .inr ⟨later, List.mem_cons_of_mem _ laterIn, inside⟩

/-- Inherited fields are fields of record types that are already known. -/
theorem mem_inherited {records : List RecordType} {bases : List Expr} {field : RecordField}
    (member : field ∈ (inherited records bases).1) : ∃ record ∈ records, field ∈ record.fields := by
  rcases mem_foldl_overlay member with none | ⟨record, recordIn, inside⟩
  · cases none
  · obtain ⟨base, -, found⟩ := List.mem_filterMap.1 (List.mem_reverse.1 recordIn)
    exact ⟨record, mem_of_base? found, inside⟩

/-- The fields that a body declares come from its statements. -/
theorem mem_ownFields {body : List Statement} {own : List RecordField}
    (declared : ownFields marker body = .ok own) {field : RecordField} (member : field ∈ own) :
    ∃ statement ∈ body, field? marker statement = .ok (some field) := by
  induction body generalizing own with
  | nil =>
    cases declared
    cases member
  | cons statement rest ih =>
    rw [ownFields] at declared
    cases first : field? marker statement with
    | error _ =>
      rw [first] at declared
      cases declared
    | ok found =>
      cases others : ownFields marker rest with
      | error _ =>
        rw [first, others] at declared
        cases declared
      | ok fields =>
        rw [first, others] at declared
        cases declared
        rcases List.mem_append.1 member with inside | inside
        · rw [Option.mem_toList] at inside
          exact ⟨statement, List.mem_cons_self, by rw [first, inside]⟩
        · obtain ⟨later, laterIn, same⟩ := ih others inside
          exact ⟨later, List.mem_cons_of_mem _ laterIn, same⟩

theorem isFieldName_of_checkName {model subject name : String}
    (passed : checkName model subject name = .ok ()) : Text.isFieldName name := by
  rw [checkName] at passed
  split at passed
  · rename_i accepted
    rw [requireIdentifier] at accepted
    split at accepted
    · assumption
    · cases accepted
  · cases passed

/-- The record type of a class has its name, the fields of its bases and over them its own. -/
theorem ofClass_eq_ok {records : List RecordType} {isModel : Bool} {head : Source.ClassHead}
    {body : List Statement} {record : RecordType}
    (made : ofClass marker records isModel head body = .ok record) :
    Text.isFieldName head.name ∧ ∃ own, ownFields marker body = .ok own ∧
      record = ⟨head.name, overlay (inherited records head.bases).1 own,
        (body.findSome? explicitFlag?).or (inherited records head.bases).2, isModel⟩ := by
  rw [ofClass] at made
  cases declared : ownFields marker body with
  | error _ =>
    rw [declared] at made
    cases made
  | ok own =>
    cases checked : checkName "Schema" "schema" head.name with
    | error _ =>
      rw [declared, checked] at made
      cases made
    | ok _ =>
      rw [declared, checked] at made
      cases made
      exact ⟨isFieldName_of_checkName checked, own, rfl, rfl⟩

/-- What holds of the fields of earlier record types and of the fields that a class declares holds
of the fields of its record type. -/
theorem forall_ofClass {P : RecordField → Prop} {records : List RecordType} {isModel : Bool}
    {head : Source.ClassHead} {body : List Statement} {record : RecordType}
    (made : ofClass marker records isModel head body = .ok record)
    (before : ∀ record ∈ records, ∀ field ∈ record.fields, P field)
    (declared : ∀ statement ∈ body, ∀ field,
      field? marker statement = .ok (some field) → P field) :
    ∀ field ∈ record.fields, P field := by
  obtain ⟨-, own, ownDeclared, rfl⟩ := ofClass_eq_ok made
  intro field member
  rcases mem_overlay member with inside | inside
  · obtain ⟨base, baseIn, inBase⟩ := mem_inherited inside
    exact before base baseIn field inBase
  · obtain ⟨statement, statementIn, found⟩ := mem_ownFields ownDeclared inside
    exact declared statement statementIn field found

/-- What holds of every field that some class of a module declares holds of every field of a record
type that is found there, and the names of these record types are accepted. -/
theorem forall_ofStatements {P : RecordField → Prop} {statements : List Statement}
    (declared : ∀ head body, .classDefinition head body ∈ statements → ∀ statement ∈ body,
      ∀ field, field? marker statement = .ok (some field) → P field)
    {records : List RecordType}
    (before : ∀ record ∈ records, Text.isFieldName record.name ∧ ∀ field ∈ record.fields, P field) :
    ∀ record ∈ (ofStatements marker records statements).1,
      Text.isFieldName record.name ∧ ∀ field ∈ record.fields, P field := by
  induction statements generalizing records with
  | nil => exact before
  | cons statement rest ih =>
    have declaredRest := fun head body member =>
      declared head body (List.mem_cons_of_mem statement member)
    cases statement with
    | classDefinition head body =>
      rw [ofStatements]
      split
      · cases made : ofClass marker records (head.bases.any (isModelBase records)) head body with
        | error error => exact before
        | ok record =>
          have accepted : Text.isFieldName record.name := by
            obtain ⟨accepted, _, _, rfl⟩ := ofClass_eq_ok made
            exact accepted
          have fields := forall_ofClass made (fun base baseIn => (before base baseIn).2)
            (declared head body List.mem_cons_self)
          exact ih declaredRest (List.forall_mem_cons.2 ⟨⟨accepted, fields⟩, before⟩)
      · exact ih declaredRest before
    | annotated _ _ _ => exact ih declaredRest before
    | assigned _ _ => exact ih declaredRest before
    | other => exact ih declaredRest before

/-- A declared field has an accepted name and the type of its annotation. -/
theorem field?_eq_some {statement : Statement} {field : RecordField}
    (found : field? marker statement = .ok (some field)) : ∃ type value,
      statement = .annotated (.name field.field.name) type value ∧
        type.declaredType marker = .ok field.field.type ∧ Text.isFieldName field.field.name := by
  unfold field? at found
  split at found
  · rename_i text type value
    split at found
    · cases found
    · cases declared : type.declaredType marker with
      | error _ =>
        rw [declared] at found
        cases found
      | ok declaredType =>
        cases checked : checkName "FieldDescriptor" "field" text with
        | error _ =>
          rw [declared, checked] at found
          cases found
        | ok _ =>
          rw [declared, checked] at found
          cases found
          exact ⟨type, value, rfl, declared, isFieldName_of_checkName checked⟩
  · cases found

end RecordType

theorem Datum.show_text (value : String) : (Datum.text value).show = Text.quoted value :=
  rfl

namespace Schema

/-- The schemas of a module are those of its record types, and nothing has stopped the search for
them. -/
theorem ofModule_eq_ok {file text : String} {schemas : List Schema}
    (extracted : ofModule file marker text = .ok schemas) : ∃ statements,
      Source.readModule text = .ok statements ∧
        schemas = (RecordType.ofStatements marker [] statements).1.reverse.map (·.schema) ∧
        (RecordType.ofStatements marker [] statements).2 = none := by
  rw [ofModule, scanModule] at extracted
  cases found : Source.readModule text with
  | error _ =>
    rw [found] at extracted
    cases extracted
  | ok statements =>
    rw [found] at extracted
    refine ⟨statements, rfl, ?_⟩
    dsimp only at extracted
    rw [ofStatements] at extracted
    cases stopped : (RecordType.ofStatements marker [] statements).2 with
    | none =>
      simp only [stopped, Option.map_none, Except.ok.injEq] at extracted
      exact ⟨extracted.symm, rfl⟩
    | some error => simp [stopped] at extracted

/-- What holds of every field that some class of a module declares holds of every field of the
schemas of the module. -/
theorem forall_fields_of_ofModule {P : Field → Prop} {file text : String} {schemas : List Schema}
    (extracted : ofModule file marker text = .ok schemas) {statements : List Statement}
    (found : Source.readModule text = .ok statements)
    (declared : ∀ head body, .classDefinition head body ∈ statements → ∀ statement ∈ body,
      ∀ field, RecordType.field? marker statement = .ok (some field) → P field.field) :
    ∀ schema ∈ schemas, Text.isFieldName schema.name ∧ ∀ field ∈ schema.fields, P field := by
  obtain ⟨others, same, rfl, -⟩ := ofModule_eq_ok extracted
  rw [found] at same
  cases same
  have before : ∀ record ∈ ([] : List RecordType), Text.isFieldName record.name ∧
      ∀ field ∈ record.fields, P field.field := List.forall_mem_nil _
  have each := RecordType.forall_ofStatements declared before
  intro schema member
  obtain ⟨record, recordIn, rfl⟩ := List.mem_map.1 member
  obtain ⟨accepted, fields⟩ := each record (List.mem_reverse.1 recordIn)
  exact ⟨accepted, List.forall_mem_map.2 fields⟩

/-- The names of extracted schemas are accepted. -/
theorem wellNamed_of_ofModule {file text : String} {schemas : List Schema}
    (extracted : ofModule file marker text = .ok schemas) :
    ∀ schema ∈ schemas, schema.WellNamed := by
  obtain ⟨statements, found, -⟩ := ofModule_eq_ok extracted
  intro schema member
  obtain ⟨name, fields⟩ := forall_fields_of_ofModule (P := fun field => Text.isFieldName field.name)
    extracted found (fun head body _ statement _ field declared => by
      obtain ⟨_, _, _, _, accepted⟩ := RecordType.field?_eq_some declared
      exact accepted) schema member
  exact ⟨name, fields⟩

/-! ## Loading what was extracted -/

/-- The manifest of extracted schemas is loaded as these schemas exactly if all their types are
canonical, which they are if every annotation in the classes says nothing but types. -/
theorem reload_ofModule {file text : String} {schemas : List Schema}
    (extracted : ofModule file TypeExpr.defaultMarker text = .ok schemas) (origin : String) :
    (Manifest.schemas origin TypeExpr.defaultMarker (Manifest.document schemas) = .ok schemas ↔
      ∀ schema ∈ schemas, ∀ field ∈ schema.fields, field.type.Canonical) ∧
    ∀ statements, Source.readModule text = .ok statements →
      (∀ head body, .classDefinition head body ∈ statements → ∀ target type value,
        .annotated target type value ∈ body → type.IsPureType) →
        Manifest.schemas origin TypeExpr.defaultMarker (Manifest.document schemas) =
          .ok schemas := by
  have named := wellNamed_of_ofModule extracted
  have reloaded := Manifest.schemas_document_eq_ok_iff TypeExpr.dottedName_defaultMarker named origin
  refine ⟨reloaded, fun statements found onlyTypes => reloaded.2 ?_⟩
  have canonical := forall_fields_of_ofModule (P := fun field => field.type.Canonical) extracted
    found ?_
  · exact fun schema member => (canonical schema member).2
  · intro head body classIn statement statementIn field declared
    obtain ⟨type, value, rfl, typed, -⟩ := RecordType.field?_eq_some declared
    exact (onlyTypes head body classIn _ type value statementIn).canonical
      TypeExpr.dottedName_defaultMarker
      (by decide) typed

def optionalModule : String :=
  "@dataclass\nclass A:\n    f: list[int] | None = None\n"

def optionalSchema : Schema :=
  ⟨"A", [⟨"f", .mk "Optional" [.mk "list" [.bare "int"]]⟩], true⟩

/-- An optional field that was read from a class is kept by its manifest. -/
theorem reload_optionalModule :
    ofModule "models.py" TypeExpr.defaultMarker optionalModule = .ok [optionalSchema] ∧
    Manifest.schemas "<manifest>" TypeExpr.defaultMarker (Manifest.document [optionalSchema]) =
      .ok [optionalSchema] := by
  have found : (ofModule "models.py" TypeExpr.defaultMarker optionalModule).toOption =
      some [optionalSchema] := by
    decide +kernel
  have extracted := eq_ok_of_toOption found
  have int : TypeExpr.Canonical (.bare "int") :=
    .mk (.name (.segment (by decide) (List.all_eq_true.1 (by decide)))) (List.forall_mem_nil _)
  have list : TypeExpr.Canonical (.mk "list" [.bare "int"]) :=
    .mk (.name (.segment (by decide) (List.all_eq_true.1 (by decide))))
      (List.forall_mem_singleton.2 int)
  have optional : TypeExpr.Canonical (.mk "Optional" [.mk "list" [.bare "int"]]) :=
    .mk (.name TypeExpr.dottedName_defaultMarker) (List.forall_mem_singleton.2 list)
  refine ⟨extracted, (reload_ofModule extracted "<manifest>").1.2 ?_⟩
  exact List.forall_mem_singleton.2 (List.forall_mem_singleton.2 optional)

/-- A module with a list in the place of a type. -/
def callableModule : String :=
  "@dataclass\nclass A:\n    f: Callable[[int], str]\n"

/-- The schema of `callableModule`: a list is no type, so it is kept as one name. -/
def callableSchema : Schema :=
  ⟨"A", [⟨"f", .mk "Callable" [.bare "[int]", .bare "str"]⟩], false⟩

theorem ofModule_callableModule :
    ofModule "models.py" TypeExpr.defaultMarker callableModule = .ok [callableSchema] := by
  have extracted : (ofModule "models.py" TypeExpr.defaultMarker callableModule).toOption =
      some [callableSchema] := by
    decide +kernel
  exact eq_ok_of_toOption extracted

/-- Brackets inside brackets begin no type. -/
theorem read_callable : TypeExpr.read marker "Callable[[int], str]" =
    .error (.unexpected .openBracket) := by
  have scanned : Token.scan "Callable[[int], str]" = .ok [.word "Callable",
      .mark .openBracket, .mark .openBracket, .word "int", .mark .closeBracket, .mark .comma,
      .word "str", .mark .closeBracket] :=
    eq_ok_of_toOption (by decide +kernel)
  rw [TypeExpr.read, scanned]
  dsimp only
  rw [TypeExpr.readUnion, TypeExpr.readAtom, TypeExpr.readArguments, TypeExpr.readUnion,
    TypeExpr.readAtom]
  all_goals simp

theorem itemFault?_callableSchema :
    Manifest.itemFault? marker (Manifest.ofSchema callableSchema) =
      some (.unreadableType "'A'" (.unexpected .openBracket)) := by
  have rendered : (TypeExpr.mk "Callable" [.bare "[int]", .bare "str"]).render =
      "Callable[[int], str]" := by
    decide +kernel
  have unread : Manifest.typeFault? marker
      (TypeExpr.mk "Callable" [.bare "[int]", .bare "str"]).render =
        some (.unexpected .openBracket) := by
    rw [rendered, Manifest.typeFault?, read_callable]
  have named : (Manifest.ofSchema callableSchema).get? "name" = some (.text "A") := by
    simp [Manifest.ofSchema, Datum.get?, Datum.lookup?, callableSchema]
  have shown : Text.quoted "A" = "'A'" := by
    decide +kernel
  rw [Manifest.itemFault?, Manifest.typeTexts_ofSchema, named, callableSchema, List.map_singleton,
    List.findSome?_singleton, unread, Option.getD_some, Datum.show_text, shown]
  rfl

/-- A schema whose manifest is refused: the text of the type cannot be read. -/
theorem reload_callable :
    ofModule "models.py" TypeExpr.defaultMarker callableModule = .ok [callableSchema] ∧
    Manifest.schemas "<manifest>" TypeExpr.defaultMarker (Manifest.document [callableSchema]) =
      .error ⟨"<manifest>", .unreadableType "'A'" (.unexpected .openBracket)⟩ := by
  refine ⟨ofModule_callableModule, ?_⟩
  rw [Manifest.schemas, Manifest.items?_document]
  simp [Manifest.ofItems, itemFault?_callableSchema, Except.mapError]

end Schema

end Fieldwise
