import Fieldwise.Schema.Document
import Fieldwise.Type.Reader

/-! # Manifests

A manifest is a document that lists schemas, at the top or under the key `schemas`, with their
types written as texts. All types are read before any schema is checked, so a type that cannot be
read counts before every other fault. -/

namespace Fieldwise

/-- What can be wrong with a manifest. The subject of a type is its schema's name as it is shown. -/
inductive ManifestFault where
  | noList
  | unreadableType (subject : String) (error : TypeExpr.ReadError)
  | invalid (error : Invalid)
  deriving DecidableEq, Repr

/-- Why a document is no manifest, and where the document comes from. -/
structure ManifestError where
  origin : String
  fault : ManifestFault
  deriving DecidableEq, Repr

def ManifestError.lead (error : ManifestError) : String :=
  error.origin ++ ": " ++
    match error.fault with
    | .noList => ""
    | .unreadableType subject _ => "schema " ++ subject ++ ": "
    | .invalid _ => "invalid schema: "

def ManifestError.cause (error : ManifestError) : String :=
  match error.fault with
  | .noList => "expected a list of schemas or a 'schemas' key"
  | .unreadableType _ error => error.message
  | .invalid error => error.message

def ManifestError.message (error : ManifestError) : String :=
  error.lead ++ error.cause

namespace Manifest

/-- The key of the list of schemas. -/
def listKey : String :=
  "schemas"

def items? (document : Datum) : Option (List Datum) :=
  match document with
  | .mapping entries => (Datum.lookup? listKey entries).bind Datum.list?
  | other => other.list?

/-- The texts of the types of an item's fields. -/
def typeTexts (item : Datum) : List String :=
  (((item.get? "fields").bind Datum.list?).getD []).filterMap fun field =>
    (field.get? "type").bind Datum.text?

/-- Why the text of a type cannot be read, if it cannot. -/
def typeFault? (marker text : String) : Option TypeExpr.ReadError :=
  match TypeExpr.read marker text with
  | .ok _ => none
  | .error error => some error

/-- The first type of an item that cannot be read. -/
def itemFault? (marker : String) (item : Datum) : Option ManifestFault :=
  ((typeTexts item).findSome? (typeFault? marker)).map
    (.unreadableType ((item.get? "name").getD .null).show)

/-- Whether the first item with a type that cannot be read has a name that cannot be shown. -/
def isUnshowable (marker : String) (document : Datum) : Bool :=
  match ((items? document).getD []).find? fun item => (itemFault? marker item).isSome with
  | some item => !((item.get? "name").getD .null).isShowable
  | none => false

def ofItems (marker : String) (items : List Datum) : Except ManifestFault (List Schema) :=
  match items.findSome? (itemFault? marker) with
  | some fault => .error fault
  | none => items.mapM fun item =>
      ((Schema.check marker item).named Schema.modelName).mapError .invalid

def schemas (origin marker : String) (document : Datum) : Except ManifestError (List Schema) :=
  match items? document with
  | none => .error ⟨origin, .noList⟩
  | some items => (ofItems marker items).mapError fun fault => ⟨origin, fault⟩

def ofField (field : Field) : Datum :=
  .mapping [(.text "name", .text field.name), (.text "type", .text field.type.render)]

def ofSchema (schema : Schema) : Datum :=
  .mapping [(.text "name", .text schema.name),
    (.text "default_constructible", .flag schema.defaultConstructible),
    (.text "fields", .list (schema.fields.map ofField))]

def document (schemas : List Schema) : Datum :=
  .mapping [(.text listKey, .list (schemas.map ofSchema))]

end Manifest

end Fieldwise
