import Fieldwise.Schema.Basic

/-! # Indexed schemas

A schema can be indexed if its field names are distinct. The index knows every field and the shape
of its type under one marker. -/

namespace Fieldwise

/-- A field that a schema declares more than once. -/
structure DuplicateField where
  schema : String
  field : String
  deriving DecidableEq, Repr

def DuplicateField.message (error : DuplicateField) : String :=
  "schema " ++ Text.quoted error.schema ++ " declares field " ++ Text.quoted error.field ++
    " more than once"

/-- A schema with distinct field names, and the marker that decides which types are optional. -/
structure SchemaIndex where
  schema : Schema
  marker : String
  distinct : schema.fieldNames.Nodup

namespace SchemaIndex

/-- Indexes a schema, unless a field is declared twice. -/
def ofSchema (marker : String) (schema : Schema) : Except DuplicateField SchemaIndex :=
  match found : schema.repeatedField? with
  | some field => .error ⟨schema.name, field⟩
  | none => .ok ⟨schema, marker, (firstRepeat?_eq_none_iff _).1 found⟩

def name (index : SchemaIndex) : String :=
  index.schema.name

def field? (index : SchemaIndex) (name : String) : Option Field :=
  index.schema.fields.find? (·.name == name)

def shapeOf (index : SchemaIndex) (field : Field) : Shape :=
  field.type.shape index.marker

def shape? (index : SchemaIndex) (name : String) : Option Shape :=
  (index.field? name).map index.shapeOf

def missingField (index : SchemaIndex) (name : String) : String :=
  "schema " ++ Text.quoted index.name ++ " has no field " ++ Text.quoted name

/-- All shapes with their field names, in declaration order. -/
def shapes (index : SchemaIndex) : List (String × Shape) :=
  index.schema.fields.map fun field => (field.name, index.shapeOf field)

end SchemaIndex

end Fieldwise
