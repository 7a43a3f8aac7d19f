import Fieldwise.Proofs.RelatedLists
import Fieldwise.Scope

/-! # Scopes whose shapes agree

A pass sees the type of a field only through its shape, and of what is inside the optional level
only whether two types are equal. So if two scopes declare the same names and flags, and the shapes of
their fields agree up to a relation that keeps equal types equal and others apart, the passes over
them emit the same (`Scope.generate_related`). Each scope may have its own marker. -/

namespace Fieldwise

structure Field.Related (related : TypeExpr → TypeExpr → Prop) (field other : Field) : Prop where
  name : field.name = other.name
  type : related field.type other.type

/-- Two schemas that differ in the types of their fields only, and these are related. -/
structure Schema.Related (related : TypeExpr → TypeExpr → Prop) (schema other : Schema) :
    Prop where
  name : schema.name = other.name
  fields : List.Forall₂ (Field.Related related) schema.fields other.fields
  defaultConstructible : schema.defaultConstructible = other.defaultConstructible

structure Shape.Related (related : TypeExpr → TypeExpr → Prop) (shape other : Shape) : Prop where
  optional : shape.optional = other.optional
  inner : related shape.inner other.inner

/-- Two types whose shapes, each under its own marker, agree up to a relation. -/
def TypeExpr.ShapesRelated (related : TypeExpr → TypeExpr → Prop) (first second : String)
    (type other : TypeExpr) : Prop :=
  (type.shape first).Related related (other.shape second)

variable {related : TypeExpr → TypeExpr → Prop} {first second : String}

/-! ## Fields and their correspondences -/

theorem Schema.Related.fieldNames {schema other : Schema} (alike : schema.Related related other) :
    schema.fieldNames = other.fieldNames :=
  map_eq_of_forall₂ alike.fields fun _ _ same => same.name

theorem Schema.Related.repeatedField? {schema other : Schema}
    (alike : schema.Related related other) : schema.repeatedField? = other.repeatedField? := by
  rw [Schema.repeatedField?, Schema.repeatedField?, alike.fieldNames]

/-- Related shapes match in the same way if the relation keeps types apart. -/
theorem Shape.match?_related (unique : Relator.BiUnique related) {source target : Shape}
    {source' target' : Shape} (sourceAlike : source.Related related source')
    (targetAlike : target.Related related target') :
    source.match? target = source'.match? target' := by
  have sameInner : source.inner = target.inner ↔ source'.inner = target'.inner :=
    Relator.rel_eq unique sourceAlike.inner targetAlike.inner
  simp only [match?, sameInner, sourceAlike.optional, targetAlike.optional]

namespace SchemaIndex

/-- Two indexes, each under its own marker, of schemas whose shapes agree up to a relation. -/
structure Related (related : TypeExpr → TypeExpr → Prop) (first second : String)
    (index other : SchemaIndex) : Prop where
  marker : index.marker = first
  otherMarker : other.marker = second
  schema : index.schema.Related (TypeExpr.ShapesRelated related first second) other.schema

variable {source target source' target' : SchemaIndex}

theorem Related.shapeOf (alike : target.Related related first second target') {field other : Field}
    (fieldAlike : field.Related (TypeExpr.ShapesRelated related first second) other) :
    (target.shapeOf field).Related related (target'.shapeOf other) := by
  rw [SchemaIndex.shapeOf, SchemaIndex.shapeOf, alike.marker, alike.otherMarker]
  exact fieldAlike.type

theorem Related.correspondence? (unique : Relator.BiUnique related)
    (sourceAlike : source.Related related first second source')
    (targetAlike : target.Related related first second target') {field other : Field}
    (fieldAlike : field.Related (TypeExpr.ShapesRelated related first second) other) :
    source.correspondence? target field = source'.correspondence? target' other := by
  rw [SchemaIndex.correspondence?, SchemaIndex.correspondence?, shape?, shape?, field?, field?,
    ← fieldAlike.name]
  have found := find?_key_related (fun _ _ alike => alike.name) sourceAlike.schema.fields field.name
  generalize source.schema.fields.find? (·.name == field.name) = sourceField at found ⊢
  generalize source'.schema.fields.find? (·.name == field.name) = sourceField' at found ⊢
  change Option.bind _ _ = Option.bind _ _
  cases found with
  | none => rw [Option.map_none, Option.map_none, Option.bind_none, Option.bind_none]
  | some sourceFieldAlike =>
    have sameMatch := Shape.match?_related unique (sourceAlike.shapeOf sourceFieldAlike)
      (targetAlike.shapeOf fieldAlike)
    rw [Option.map_some, Option.map_some, Option.bind_some, Option.bind_some, sameMatch]

/-- Resolution finds the same correspondences. -/
theorem Related.resolve (unique : Relator.BiUnique related)
    (sourceAlike : source.Related related first second source')
    (targetAlike : target.Related related first second target') :
    source.resolve target = source'.resolve target' :=
  filterMap_eq_of_forall₂ targetAlike.schema.fields fun _ _ fieldAlike =>
    sourceAlike.correspondence? unique targetAlike fieldAlike

end SchemaIndex

namespace Scope

variable {schemas others : List Schema}

/-! ## Whole passes -/

theorem operationsOf_related (options : GenerationOptions) (unique : Relator.BiUnique related)
    {source target source' target' : SchemaIndex}
    (sourceAlike : source.Related related first second source')
    (targetAlike : target.Related related first second target') :
    operationsOf options source target = operationsOf options source' target' := by
  have sourceName : source.name = source'.name := sourceAlike.schema.name
  have targetName : target.name = target'.name := targetAlike.schema.name
  rw [operationsOf, operationsOf, Operation.move, Operation.move, Operation.conversion?,
    Operation.conversion?, sourceAlike.resolve unique targetAlike, sourceName, targetName,
    targetAlike.schema.defaultConstructible]

theorem toOption_ofSchema_related {schema other : Schema}
    (alike : schema.Related (TypeExpr.ShapesRelated related first second) other) :
    Option.Rel (SchemaIndex.Related related first second)
      (SchemaIndex.ofSchema first schema).toOption
      (SchemaIndex.ofSchema second other).toOption := by
  -- Whether a field repeats does not depend on the types, so both sides fail or neither does.
  rw [SchemaIndex.ofSchema, SchemaIndex.ofSchema]
  split
  · rename_i field repeated
    rw [alike.repeatedField?] at repeated
    split
    · exact .none
    · rename_i distinct
      rw [repeated] at distinct
      cases distinct
  · rename_i distinct
    rw [alike.repeatedField?] at distinct
    split
    · rename_i repeated
      rw [distinct] at repeated
      cases repeated
    · exact .some ⟨rfl, rfl, alike⟩

theorem indexed_related
    (each : List.Forall₂ (Schema.Related (TypeExpr.ShapesRelated related first second))
      schemas others) :
    List.Forall₂ (SchemaIndex.Related related first second) (indexed first schemas)
      (indexed second others) :=
  List.rel_filterMap (fun _ _ alike => toOption_ofSchema_related alike) each

/-- Passes over scopes whose shapes agree emit the same, or fail alike. -/
theorem generate_related (options : GenerationOptions) (unique : Relator.BiUnique related)
    (each : List.Forall₂ (Schema.Related (TypeExpr.ShapesRelated related first second))
      schemas others) :
    generate { options with marker := first } schemas =
      generate { options with marker := second } others := by
  have sameRepeated : repeatedName? schemas = repeatedName? others := by
    rw [repeatedName?, repeatedName?, map_eq_of_forall₂ each fun _ _ alike => alike.name]
  have sameIsolated : isolated schemas = isolated others :=
    filterMap_eq_of_forall₂ each fun _ _ alike => by rw [alike.repeatedField?, alike.name]
  have indexes := indexed_related each
  have sameNames : (indexed first schemas).map (·.name) = (indexed second others).map (·.name) :=
    map_eq_of_forall₂ indexes fun _ _ alike => alike.schema.name
  have sameOperations : operations { options with marker := first } (indexed first schemas) =
      operations { options with marker := second } (indexed second others) :=
    flatMap_eq_of_forall₂ indexes fun _ _ targetAlike =>
      flatMap_eq_of_forall₂ indexes fun _ _ sourceAlike =>
        operationsOf_related _ unique sourceAlike targetAlike
  simp only [generate, sameRepeated, sameIsolated, sameNames, sameOperations]

end Scope

end Fieldwise
