import Fieldwise.Operation.Basic

/-! # Generation over a scope

A scope is a list of schemas with distinct names. Schemas that declare a field twice are set aside;
for every ordered pair of the others there is a move, and a conversion if the target has a default
instance. Operations come target by target, then source by source, the move before the
conversion. -/

namespace Fieldwise

/-- Why a scope has no operations. -/
inductive ScopeError where
  | duplicateSchema (name : String)
  | duplicateField (error : DuplicateField)
  deriving DecidableEq, Repr

def ScopeError.message : ScopeError → String
  | duplicateSchema name => "schema name " ++ Text.quoted name ++ " appears more than once in scope"
  | duplicateField error => error.message

structure GenerationOptions where
  marker : String := TypeExpr.defaultMarker
  selfMoves : Bool := true
  selfConversions : Bool := true
  strict : Bool := false
  deriving DecidableEq, Repr

/-- The operations of a scope, the errors of the schemas set aside, and the names of the others. -/
structure Generation where
  operations : List Operation
  errors : List DuplicateField
  schemas : List String
  deriving DecidableEq, Repr

namespace Scope

/-- The schemas that can be indexed. -/
def indexed (marker : String) (schemas : List Schema) : List SchemaIndex :=
  schemas.filterMap fun schema => (SchemaIndex.ofSchema marker schema).toOption

/-- The errors of the schemas that cannot be indexed. -/
def isolated (schemas : List Schema) : List DuplicateField :=
  schemas.filterMap fun schema => schema.repeatedField?.map fun field => ⟨schema.name, field⟩

/-- The first schema name that two schemas share. -/
def repeatedName? (schemas : List Schema) : Option String :=
  firstRepeat? (schemas.map (·.name))

/-- Indexes all schemas of a scope; the first error counts. -/
def index (marker : String) (schemas : List Schema) : Except ScopeError (List SchemaIndex) :=
  match repeatedName? schemas, isolated schemas with
  | some name, _ => .error (.duplicateSchema name)
  | none, error :: _ => .error (.duplicateField error)
  | none, [] => .ok (indexed marker schemas)

def operationsOf (options : GenerationOptions) (source target : SchemaIndex) : List Operation :=
  let selfPair := source.name == target.name
  (if options.selfMoves || !selfPair then [Operation.move source target] else []) ++
    (if options.selfConversions || !selfPair then
      (Operation.conversion? source target).toList
    else [])

def operations (options : GenerationOptions) (indexes : List SchemaIndex) : List Operation :=
  indexes.flatMap fun target => indexes.flatMap fun source => operationsOf options source target

def generate (options : GenerationOptions) (schemas : List Schema) :
    Except ScopeError Generation :=
  match repeatedName? schemas, isolated schemas with
  | some name, _ => .error (.duplicateSchema name)
  | none, errors =>
    match options.strict, errors with
    | true, error :: _ => .error (.duplicateField error)
    | _, _ =>
      let indexes := indexed options.marker schemas
      .ok ⟨operations options indexes, errors, indexes.map (·.name)⟩

end Scope

namespace Generation

/-- No schema was set aside. -/
def isOk (generation : Generation) : Bool :=
  generation.errors.isEmpty

def moves (generation : Generation) : List Operation :=
  generation.operations.filter (·.kind = .move)

def conversions (generation : Generation) : List Operation :=
  generation.operations.filter (·.kind = .convert)

/-- Whether an operation is the one of a kind and a pair. -/
def isFor (kind : OperationKind) (source target : String) (operation : Operation) : Bool :=
  operation.kind == kind && operation.sourceSchema == source && operation.targetSchema == target

def find? (generation : Generation) (kind : OperationKind) (source target : String) :
    Option Operation :=
  generation.operations.find? (isFor kind source target)

end Generation

end Fieldwise
