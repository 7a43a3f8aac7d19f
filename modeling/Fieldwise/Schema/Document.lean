import Fieldwise.Schema.Basic
import Fieldwise.Type.Document

/-! # Schemas in documents

A schema is a record of a name, a sequence of fields and a flag. The type of a field is a text or
the record of a type. Texts in a list of fields are read with the marker that is configured, those in
other sequences with the default one. -/

namespace Fieldwise

/-- The type of a field. A text is read with the given marker. -/
def Field.checkType (marker : String) : Datum → Checked TypeExpr
  | .text value =>
    match TypeExpr.read marker value with
    | .ok type => .ok type
    | .error error => .fail (.rejected error.message)
  | datum => TypeExpr.ofDatum datum

def Field.ofDatum (marker : String) (datum : Datum) : Checked Field := do
  let entries ← datum.checkRecord "FieldDescriptor"
  Datum.closed ["name", "type"] entries <|
    ((Datum.required entries "name" (Datum.checkTextBy (requireIdentifier "field"))).both
      (Datum.required entries "type" (Field.checkType marker))).map fun (name, type) => ⟨name, type⟩

namespace Schema

def documentKeys : List String :=
  ["name", "fields", "default_constructible"]

/-- The name by which messages call the record of a schema. -/
def modelName : String :=
  "Schema"

/-- Checks the fields of a schema. A list has its types read before the check, with the given marker;
the check itself knows the default marker only. -/
def checkFields (marker : String) : Datum → Checked (List Field)
  | .list items => Datum.checkItems (Field.ofDatum marker) (.list items)
  | sequence => Datum.checkItems (Field.ofDatum TypeExpr.defaultMarker) sequence

/-- Checks the record of a schema, reading the texts of its types with a marker. -/
def check (marker : String) (datum : Datum) : Checked Schema := do
  let entries ← datum.checkRecord modelName
  Datum.closed documentKeys entries <|
    ((Datum.required entries "name" (Datum.checkTextBy (requireIdentifier "schema"))).both
      ((Datum.defaulted entries "fields" [] (checkFields marker)).both
        (Datum.defaulted entries "default_constructible" false Datum.checkFlag))).map
      fun (name, fields, defaultConstructible) => ⟨name, fields, defaultConstructible⟩

def ofDatum (datum : Datum) : Except Invalid Schema :=
  (check TypeExpr.defaultMarker datum).named modelName

/-- Schemas from a list of documents; the first invalid one counts. -/
def ofData (data : List Datum) : Except Invalid (List Schema) :=
  data.mapM ofDatum

end Schema

end Fieldwise
