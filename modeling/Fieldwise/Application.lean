import Fieldwise.Datum
import Fieldwise.Operation.Basic

/-! # Application to live records

An operation can be carried out on records directly. A record knows how it may be read and written;
the assignments run in order, and those before an error stay. -/

namespace Fieldwise

/-- How the fields of a record are accessed. -/
inductive Access where
  | mapping
  | readOnlyMapping
  | attributes
  | slots
  | frozen
  deriving DecidableEq, Repr, Inhabited

structure Record where
  access : Access
  typeName : String
  fields : List (String × Datum)
  deriving Repr, Inhabited

/-- Why an operation stopped. -/
inductive ApplicationError where
  | wrongKind (expected found : OperationKind)
  | missingKey (key : String)
  | missingAttribute (typeName name : String)
  | frozenField (field : String)
  deriving DecidableEq, Repr

def ApplicationError.message : ApplicationError → String
  | wrongKind expected found =>
    "expected a " ++ expected.value ++ " operation, got " ++ Text.quoted found.value
  | missingKey key => key
  | missingAttribute typeName name =>
    Text.quoted typeName ++ " object has no attribute " ++ Text.quoted name
  | frozenField field => "cannot assign to field " ++ Text.quoted field

namespace Record

/-- Sets a field; a new one goes to the end. -/
def putField (name : String) (value : Datum) : List (String × Datum) → List (String × Datum)
  | [] => [(name, value)]
  | field :: rest =>
    if field.1 = name then (name, value) :: rest else field :: putField name value rest

def put (record : Record) (name : String) (value : Datum) : Record :=
  { record with fields := putField name value record.fields }

/-- The name by which errors call the type of a record. -/
def errorType (record : Record) : String :=
  match record.access with
  | .readOnlyMapping => "mappingproxy"
  | _ => record.typeName

def read (record : Record) (name : String) : Except ApplicationError Datum :=
  match record.fields.lookup name with
  | some value => .ok value
  | none =>
    match record.access with
    | .mapping | .readOnlyMapping => .error (.missingKey name)
    | _ => .error (.missingAttribute record.errorType name)

/-- Writes a field, as far as the record allows it. -/
def write (record : Record) (name : String) (value : Datum) : Except ApplicationError Record :=
  match record.access with
  | .mapping | .attributes => .ok (record.put name value)
  | .slots =>
    if (record.fields.lookup name).isSome then .ok (record.put name value)
    else .error (.missingAttribute record.errorType name)
  | .readOnlyMapping => .error (.missingAttribute record.errorType name)
  | .frozen => .error (.frozenField name)

end Record

def Datum.isPresent : Datum → Bool
  | null => false
  | _ => true

def Correspondence.apply (correspondence : Correspondence) (source target : Record) :
    Except ApplicationError Record := do
  let value ← source.read correspondence.sourceField
  if correspondence.kind.requiresPresence && !value.isPresent then return target
  else target.write correspondence.targetField value

/-- What an operation leaves behind: the target as far as it got, and what stopped it. -/
structure Applied where
  target : Record
  error : Option ApplicationError

/-- Carries out assignments in order until one fails. `source` tells what is read while the target
has a certain state: a record of its own, or the target itself. -/
def applyAll (source : Record → Record) (target : Record) : List Correspondence → Applied
  | [] => ⟨target, none⟩
  | correspondence :: rest =>
    match correspondence.apply (source target) target with
    | .ok next => applyAll source next rest
    | .error error => ⟨target, some error⟩

namespace Operation

/-- Carries out an operation of the expected kind. -/
def applyAs (expected : OperationKind) (operation : Operation) (source : Record → Record)
    (target : Record) : Applied :=
  if operation.kind = expected then applyAll source target operation.correspondences
  else ⟨target, some (.wrongKind expected operation.kind)⟩

def applyMove (operation : Operation) (target source : Record) : Applied :=
  operation.applyAs .move (fun _ => source) target

def applySelfMove (operation : Operation) (record : Record) : Applied :=
  operation.applyAs .move id record

/-- Converts a source, given the default target. -/
def applyConversion (operation : Operation) (source default : Record) : Applied :=
  operation.applyAs .convert (fun _ => source) default

end Operation

end Fieldwise
