import Fieldwise.Declared
import Fieldwise.Log
import Fieldwise.Schema.Document
import Fieldwise.Source.Module

/-! # Schemas from modules

Record types are the outermost classes of a module that are decorated as `dataclass` or derive, by
name or through earlier record types, from `BaseModel`. A record type takes over the fields of its
bases, the first base winning, and adds its own annotated names; a field that is declared again
keeps its place and takes the new type. -/

namespace Fieldwise

open Source (Expr Statement ClassHead)

structure RecordField where
  field : Field
  hasDefault : Bool

/-- A record type: its fields, what is said about its default instance, and whether it derives from
the model class. -/
structure RecordType where
  name : String
  fields : List RecordField
  explicit : Option Bool
  isModel : Bool

inductive ClassError where
  | invalid (error : Invalid)
  | undeclared (error : DeclaredError)
  deriving DecidableEq, Repr

inductive ExtractionError where
  | unreadable (file : String) (error : Source.ModuleError)
  | classFault (file : String) (line : Nat) (name : String) (error : ClassError)
  deriving DecidableEq, Repr

def ClassError.message : ClassError → String
  | invalid error => error.message
  | undeclared error => error.message

def ExtractionError.isReported : ExtractionError → Bool
  | classFault _ _ _ (.undeclared .noArgument) => false
  | _ => true

def ExtractionError.lead (error : ExtractionError) : String :=
  if error.isReported then
    match error with
    | unreadable file _ => "cannot parse " ++ file ++ ": "
    | classFault file line name _ =>
      file ++ ":" ++ toString line ++ ": class " ++ name ++ ": "
  else ""

def ExtractionError.cause : ExtractionError → String
  | unreadable _ error => error.message
  | classFault _ _ _ error => error.message

def ExtractionError.message (error : ExtractionError) : String :=
  error.lead ++ error.cause

namespace RecordType

/-- The class attribute that settles whether a default instance can be built. -/
def defaultAttribute : String :=
  "__corresponding_default__"

/-- The heads of annotations that declare no field. -/
def skippedHeads : List String :=
  ["ClassVar", "InitVar"]

/-- The functions that describe a field. -/
def fieldFunctions : List String :=
  ["field", "Field"]

/-- Sets a field; one of the same name keeps its place. -/
def putField (new : RecordField) : List RecordField → List RecordField
  | [] => [new]
  | old :: rest =>
    if old.field.name = new.field.name then new :: rest else old :: putField new rest

def overlay (fields upper : List RecordField) : List RecordField :=
  upper.foldl (fun done new => putField new done) fields

/-- The schema of a record type. Without an explicit word it has a default instance if every field
has a default. -/
def schema (record : RecordType) : Schema :=
  ⟨record.name, record.fields.map (·.field),
    record.explicit.getD (record.fields.all (·.hasDefault))⟩

/-- The most recent record type of a name; later ones come first. -/
def find? (records : List RecordType) (name : String) : Option RecordType :=
  List.find? (·.name == name) records

def base? (records : List RecordType) (base : Expr) : Option RecordType :=
  base.dotted?.bind (find? records)

/-- Whether a decorator, called or not, makes a class a record type. -/
def decorates (decorator : Expr) : Bool :=
  match decorator with
  | .call function _ _ => function.head? == some "dataclass"
  | other => other.head? == some "dataclass"

/-- Whether a base makes a class a record type. -/
def isModelBase (records : List RecordType) (base : Expr) : Bool :=
  base.head? == some "BaseModel" || ((base? records base).map (·.isModel)).getD false

/-- Whether the value of a field is a default. A call that describes the field has one only if it
says so. -/
def givesDefault : Option Expr → Bool
  | none => false
  | some (.call function arguments keywords) =>
    if (function.head?.map (fieldFunctions.contains ·)).getD false then
      keywords.any (fun (label, _) => label == some "default" || label == some "default_factory") ||
        match arguments with
        | .constant .ellipsis :: _ => false
        | [] => false
        | _ => true
    else true
  | some _ => true

/-- The flag that a statement gives to the default attribute. -/
def explicitFlag? : Statement → Option Bool
  | .assigned targets (.constant (.flag value)) =>
    if targets.any fun target => match target with
      | .name text => text == defaultAttribute
      | _ => false
    then some value else none
  | .annotated (.name text) _ (some (.constant (.flag value))) =>
    if text = defaultAttribute then some value else none
  | _ => none

def isSkipped (type : Expr) : Bool :=
  let outer := match type with
    | .subscript value _ => value
    | other => other
  (outer.head?.map (skippedHeads.contains ·)).getD false

def checkName (model subject name : String) : Except ClassError Unit :=
  match requireIdentifier subject name with
  | .ok _ => .ok ()
  | .error reason => .error (.invalid ⟨model, [⟨[.key "name"], .rejected reason⟩]⟩)

def field? (marker : String) : Statement → Except ClassError (Option RecordField)
  | .annotated (.name text) type value =>
    if text = defaultAttribute || isSkipped type then .ok none
    else do
      let declared ← (type.declaredType marker).mapError .undeclared
      checkName "FieldDescriptor" "field" text
      return some ⟨⟨text, declared⟩, givesDefault value⟩
  | _ => .ok none

def ownFields (marker : String) : List Statement → Except ClassError (List RecordField)
  | [] => .ok []
  | statement :: rest => do
    let field ← field? marker statement
    return field.toList ++ (← ownFields marker rest)

/-- What a class takes over from its bases: fields, later bases first, and the word of the first
base that has one. -/
def inherited (records : List RecordType) (bases : List Expr) :
    List RecordField × Option Bool :=
  let found := bases.filterMap (base? records)
  (found.reverse.foldl (fun done record => overlay done record.fields) [],
    found.findSome? (·.explicit))

def ofClass (marker : String) (records : List RecordType) (isModel : Bool) (head : ClassHead)
    (body : List Statement) : Except ClassError RecordType := do
  let (fields, explicit) := inherited records head.bases
  let own ← ownFields marker body
  checkName "Schema" "schema" head.name
  return ⟨head.name, overlay fields own, (body.findSome? explicitFlag?).or explicit, isModel⟩

/-- The record types of statements, given those before them, last first. An error comes with the
record types found up to it. -/
def ofStatements (marker : String) (records : List RecordType) :
    List Statement → List RecordType × Option (ClassHead × ClassError)
  | [] => (records, none)
  | .classDefinition head body :: rest =>
    let isModel := head.bases.any (isModelBase records)
    if isModel || head.decorators.any decorates then
      match ofClass marker records isModel head body with
      | .ok record => ofStatements marker (record :: records) rest
      | .error error => (records, some (head, error))
    else ofStatements marker records rest
  | _ :: rest => ofStatements marker records rest

end RecordType

namespace Schema

def extractionLog (schema : Schema) : LogRecord :=
  ⟨.debug, "corresponding.io.extract", "extracted " ++ schema.name ++ " (" ++
    toString schema.fields.length ++ " fields, default=" ++
    (if schema.defaultConstructible then "True" else "False") ++ ")"⟩

/-- The schemas of statements in declaration order, and the error that stopped the search. -/
def ofStatements (file marker : String) (statements : List Statement) :
    List Schema × Option ExtractionError :=
  let (records, stopped) := RecordType.ofStatements marker [] statements
  (records.reverse.map (·.schema),
    stopped.map fun (head, error) => .classFault file head.line head.name error)

/-- The schemas of a module as far as they were found, and the error that stopped the search. -/
def scanModule (file marker text : String) : List Schema × Option ExtractionError :=
  match Source.readModule text with
  | .error error => ([], some (.unreadable file error))
  | .ok statements => ofStatements file marker statements

def ofModule (file marker text : String) : Except ExtractionError (List Schema) :=
  match scanModule file marker text with
  | (schemas, none) => .ok schemas
  | (_, some error) => .error error

end Schema

end Fieldwise
