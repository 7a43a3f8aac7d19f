import Fieldwise.Proofs.Type.Declaration

/-! # Quoted annotations

An annotation may be written as a string that holds its text. The string is read as the text of a
type, the annotation itself is taken apart; where the annotation says nothing but types, both
declare the same field. So the string can stand in its place in any class of a module
(`Schema.ofStatements_quotation`). It cannot where the annotation is a `ClassVar` or an `InitVar`:
only as it stands does this declare no field, and the string declares one. -/

namespace Fieldwise

open Source (Expr Statement ClassHead)

/-- The string that holds a text. -/
def Source.Expr.quotation (text : String) : Expr :=
  .constant (.text (text.toList.map Char.toNat) false)

/-- A place in a module for the annotation of a name: everything around it. -/
structure AnnotationPlace where
  before : List Statement
  head : ClassHead
  front : List Statement
  target : Expr
  value : Option Expr
  back : List Statement
  after : List Statement

namespace AnnotationPlace

def statement (place : AnnotationPlace) (type : Expr) : Statement :=
  .annotated place.target type place.value

def body (place : AnnotationPlace) (type : Expr) : List Statement :=
  place.front ++ place.statement type :: place.back

def fill (place : AnnotationPlace) (type : Expr) : List Statement :=
  place.before ++ .classDefinition place.head (place.body type) :: place.after

/-- The name that an annotation in the place declares a field of, unless it is skipped. -/
def fieldName? (place : AnnotationPlace) : Option String :=
  match place.target with
  | .name text => if text = RecordType.defaultAttribute then none else some text
  | _ => none

end AnnotationPlace

variable {marker text : String} {type : Expr}

/-! ## The type of a quotation -/

namespace Source.Expr

theorem charOfCode?_toNat (char : Char) : Text.charOfCode? char.toNat = some char := by
  have valid : char.toNat.isValidChar := char.valid
  rw [Text.charOfCode?, if_pos valid, Char.ofNat_toNat]

/-- The code points of a text are its characters. -/
theorem mapM_charOfCode? (chars : List Char) :
    (chars.map Char.toNat).mapM Text.charOfCode? = some chars := by
  have same : Text.charOfCode? ∘ Char.toNat = fun char => pure char := funext charOfCode?_toNat
  rw [List.mapM_map, same, List.mapM_pure, List.map_id']
  rfl

theorem isSkipped_quotation (text : String) : RecordType.isSkipped (quotation text) = false :=
  rfl

/-- A quotation stands for the type that its text is read as. -/
theorem declaredType_quotation {declared : TypeExpr}
    (found : TypeExpr.read marker text = .ok declared) :
    (quotation text).declaredType marker = .ok declared := by
  have spelled : spelledType? marker (text.toList.map Char.toNat) = some declared := by
    rw [spelledType?, mapM_charOfCode?, Option.bind_eq_bind, Option.bind_some,
      String.ofList_toList, found]
    rfl
  rw [declaredType, quotation, memberTypes, constantType, quotedType, spelled]
  rfl

/-- An annotation that says nothing but types stands for the same type as its quotation. -/
theorem IsPureType.declaredType_quotation (visible : Text.isBlankText marker = false)
    (pureType : IsPureType type) (printed : type.text = .ok text) : ∃ declared,
      type.declaredType marker = .ok declared ∧
      (quotation text).declaredType marker = .ok declared := by
  obtain ⟨shown, declared, isText, isDeclared, found⟩ := pureType.exists_read visible
  cases short : type.isShort with
  | false =>
    rw [short, printed] at isText
    cases isText
  | true =>
    rw [short] at isText isDeclared
    rw [printed] at isText
    cases isText
    exact ⟨declared, isDeclared, Expr.declaredType_quotation found⟩

end Source.Expr

/-! ## Class bodies and modules around a declaration -/

namespace RecordType

theorem checkName_of_isFieldName {model subject name : String} (accepted : Text.isFieldName name) :
    checkName model subject name = .ok () := by
  rw [checkName, requireIdentifier_of_isFieldName _ accepted]

theorem ownFields_append (front back : List Statement) :
    ownFields marker (front ++ back) = (do
      let first ← ownFields marker front
      return first ++ (← ownFields marker back)) := by
  induction front with
  | nil =>
    rw [List.nil_append, ownFields]
    cases ownFields marker back <;> rfl
  | cons statement rest ih =>
    rw [List.cons_append, ownFields, ownFields, ih]
    cases field? marker statement with
    | error _ => rfl
    | ok field =>
      cases ownFields marker rest with
      | error _ => rfl
      | ok others =>
        cases ownFields marker back with
        | error _ => rfl
        | ok last => exact congrArg Except.ok (List.append_assoc _ _ _).symm

/-- A class is the same record type with another body that declares the same fields and gives the
same flag. -/
theorem ofClass_congr {body other : List Statement}
    (fields : ownFields marker body = ownFields marker other)
    (flags : body.findSome? explicitFlag? = other.findSome? explicitFlag?)
    (records : List RecordType) (isModel : Bool) (head : ClassHead) :
    ofClass marker records isModel head body = ofClass marker records isModel head other := by
  rw [ofClass, ofClass, fields, flags]

/-- A module has the same record types with another body of one of its classes that always makes the
same record type. -/
theorem ofStatements_congr {head : ClassHead} {body other : List Statement}
    (same : ∀ records isModel, ofClass marker records isModel head body =
      ofClass marker records isModel head other)
    (records : List RecordType) (before after : List Statement) :
    ofStatements marker records (before ++ .classDefinition head body :: after) =
      ofStatements marker records (before ++ .classDefinition head other :: after) := by
  induction before generalizing records with
  | nil => rw [List.nil_append, List.nil_append, ofStatements, ofStatements, same]
  | cons statement rest ih =>
    cases statement with
    | classDefinition earlier inner =>
      rw [List.cons_append, List.cons_append, ofStatements, ofStatements]
      split
      · cases ofClass marker records (earlier.bases.any (isModelBase records)) earlier inner with
        | error _ => rfl
        | ok record => exact ih (record :: records)
      · exact ih records
    | annotated _ _ _ => exact ih records
    | assigned _ _ => exact ih records
    | other => exact ih records

end RecordType

namespace AnnotationPlace

variable (place : AnnotationPlace)

/-- The flag of a class does not depend on its annotations. -/
theorem explicitFlag?_body (first second : Expr) :
    (place.body first).findSome? RecordType.explicitFlag? =
      (place.body second).findSome? RecordType.explicitFlag? := by
  have same : RecordType.explicitFlag? (place.statement first) =
      RecordType.explicitFlag? (place.statement second) := by
    rw [statement, statement]
    unfold RecordType.explicitFlag?
    split <;> simp_all
  simp only [body, List.findSome?_append, List.findSome?_cons, same]

/-- What a class body declares, with an annotation in the place. -/
theorem ownFields_body (type : Expr) : RecordType.ownFields marker (place.body type) = (do
    let first ← RecordType.ownFields marker place.front
    let field ← RecordType.field? marker (place.statement type)
    let last ← RecordType.ownFields marker place.back
    return first ++ (field.toList ++ last)) := by
  rw [body, RecordType.ownFields_append, RecordType.ownFields]
  cases RecordType.ownFields marker place.front with
  | error _ => rfl
  | ok first =>
    cases RecordType.field? marker (place.statement type) with
    | error _ => rfl
    | ok field => cases RecordType.ownFields marker place.back <;> rfl

/-- A quotation in the place declares a field of its name, whatever else is there. -/
theorem field?_quotation {declared : TypeExpr}
    (found : (Expr.quotation text).declaredType marker = .ok declared) :
    RecordType.field? marker (place.statement (.quotation text)) =
      match place.fieldName? with
      | none => .ok none
      | some name => (RecordType.checkName "FieldDescriptor" "field" name).map fun _ =>
          some ⟨⟨name, declared⟩, RecordType.givesDefault place.value⟩ := by
  rw [statement, fieldName?]
  cases place.target with
  | name name =>
    by_cases reserved : name = RecordType.defaultAttribute
    · simp [RecordType.field?, reserved]
    · cases checked : RecordType.checkName "FieldDescriptor" "field" name <;>
        simp [RecordType.field?, reserved, checked, found, Expr.isSkipped_quotation,
          Except.mapError, Except.map, bind, Except.bind, pure, Except.pure]
  | _ => rfl

/-- An annotation in the place declares what its quotation declares, unless it is skipped: then it
declares nothing. -/
theorem field?_statement {declared : TypeExpr} (typed : type.declaredType marker = .ok declared)
    (found : (Expr.quotation text).declaredType marker = .ok declared) :
    RecordType.field? marker (place.statement type) =
      if RecordType.isSkipped type then .ok none
      else RecordType.field? marker (place.statement (.quotation text)) := by
  rw [place.field?_quotation found, statement, fieldName?]
  cases place.target with
  | name name =>
    by_cases reserved : name = RecordType.defaultAttribute
    · simp [RecordType.field?, reserved]
    · cases skipped : RecordType.isSkipped type with
      | true => simp [RecordType.field?, skipped]
      | false =>
        cases checked : RecordType.checkName "FieldDescriptor" "field" name <;>
          simp [RecordType.field?, reserved, checked, typed, skipped, Except.mapError, Except.map,
            bind, Except.bind, pure, Except.pure]
  | _ => split <;> rfl

end AnnotationPlace

namespace Schema

/-- An annotation that says nothing but types and is not skipped can be replaced by its quotation in
any class of a module: the same schemas are extracted, or the same error is met. If it is skipped,
the class declares nothing with the annotation, but with the quotation a field of the type that the
annotation spells, where the place is for the name of a field. -/
theorem ofStatements_quotation (visible : Text.isBlankText marker = false)
    (pureType : type.IsPureType) (printed : type.text = .ok text) (place : AnnotationPlace) :
    (RecordType.isSkipped type = false ∨ place.fieldName? = none → ∀ file,
      ofStatements file marker (place.fill (.quotation text)) =
        ofStatements file marker (place.fill type)) ∧
    (RecordType.isSkipped type = true → ∀ name, place.fieldName? = some name →
      Text.isFieldName name → ∃ declared, type.declaredType marker = .ok declared ∧
        RecordType.ownFields marker (place.body type) = (do
          let first ← RecordType.ownFields marker place.front
          return first ++ (← RecordType.ownFields marker place.back)) ∧
        RecordType.ownFields marker (place.body (.quotation text)) = (do
          let first ← RecordType.ownFields marker place.front
          let last ← RecordType.ownFields marker place.back
          return first ++
            ⟨⟨name, declared⟩, RecordType.givesDefault place.value⟩ :: last)) := by
  obtain ⟨declared, typed, found⟩ := pureType.declaredType_quotation visible printed
  have annotated := place.field?_statement typed found
  have quoted := place.field?_quotation found
  constructor
  · intro kept file
    have same : RecordType.field? marker (place.statement (.quotation text)) =
        RecordType.field? marker (place.statement type) := by
      rcases kept with kept | noField
      · rw [annotated, if_neg (by simp [kept])]
      · rw [annotated, quoted, noField, ite_self]
    have fields : RecordType.ownFields marker (place.body (.quotation text)) =
        RecordType.ownFields marker (place.body type) := by
      rw [place.ownFields_body, place.ownFields_body, same]
    rw [ofStatements, ofStatements, AnnotationPlace.fill, AnnotationPlace.fill,
      RecordType.ofStatements_congr fun records isModel => RecordType.ofClass_congr fields
        (place.explicitFlag?_body _ _) records isModel place.head]
  · intro skipped name isName accepted
    rw [skipped, if_pos rfl] at annotated
    rw [isName] at quoted
    dsimp only at quoted
    rw [RecordType.checkName_of_isFieldName accepted] at quoted
    refine ⟨declared, typed, ?_, ?_⟩
    · rw [place.ownFields_body, annotated]
      rfl
    · rw [place.ownFields_body, quoted]
      rfl

/-- The place for the annotation of `x` in a data class with a default for it. -/
def defaultedPlace : AnnotationPlace :=
  ⟨[], ⟨1, "A", [.name "dataclass"], []⟩, [], .name "x", some (.constant .none), [], []⟩

def optionalList : Expr :=
  .binary .bitOr (.subscript (.name "list") (.name "int")) (.constant .none)

/-- The string `"list[int] | None"` declares an optional list as the annotation does. -/
theorem ofStatements_quotation_optionalList : Text.isBlankText "Optional" = false ∧
    optionalList.IsPureType ∧ optionalList.text = .ok "list[int] | None" ∧
    ofStatements "models.py" "Optional"
        (defaultedPlace.fill (.quotation "list[int] | None")) =
      ([⟨"A", [⟨"x", .mk "Optional" [.mk "list" [.bare "int"]]⟩], true⟩], none) := by
  have visible : Text.isBlankText "Optional" = false := by decide
  have list : Expr.IsChain (.name "list") := .name (by decide)
  have int : Expr.IsPureType (.name "int") := .plain (.chain (.name (by decide)))
  have pureType : optionalList.IsPureType :=
    .alternatives (.applied list (by decide) (by decide) (List.cons_ne_nil _ _)
      (List.forall_mem_singleton.2 int)) (.plain .none) (by decide)
  have printed : optionalList.text = .ok "list[int] | None" :=
    eq_ok_of_toOption (by decide +kernel)
  have kept : RecordType.isSkipped optionalList = false := by decide
  refine ⟨visible, pureType, printed, ?_⟩
  rw [(ofStatements_quotation visible pureType printed defaultedPlace).1 (.inl kept)]
  have schemas : (ofStatements "models.py" "Optional" (defaultedPlace.fill optionalList)).1 =
      [⟨"A", [⟨"x", .mk "Optional" [.mk "list" [.bare "int"]]⟩], true⟩] := by
    decide +kernel
  have complete :
      (ofStatements "models.py" "Optional" (defaultedPlace.fill optionalList)).2 = none := by
    decide +kernel
  exact Prod.ext schemas complete

def classVariable : Expr :=
  .subscript (.name "ClassVar") (.name "int")

/-- The string `"ClassVar[int]"` declares a field where the annotation declares none. -/
theorem ofStatements_quotedClassVariable : classVariable.text = .ok "ClassVar[int]" ∧
    (ofStatements "models.py" "Optional" (defaultedPlace.fill classVariable)).1.map fieldNames =
      [[]] ∧
    (ofStatements "models.py" "Optional"
      (defaultedPlace.fill (.quotation "ClassVar[int]"))).1.map fieldNames = [["x"]] :=
  ⟨eq_ok_of_toOption (by decide +kernel), by decide +kernel, by decide +kernel⟩

end Schema

end Fieldwise
