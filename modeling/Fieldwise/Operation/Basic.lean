import Fieldwise.Correspondence

/-! # Operations

A move changes an instance of the target schema in place; a conversion builds a default instance and
applies the move to it. A conversion exists only for targets that have a default instance. -/

namespace Fieldwise

/-- A generated function: its kind, the two schemas, and the ordered assignments. -/
structure Operation where
  kind : OperationKind
  sourceSchema : String
  targetSchema : String
  correspondences : List Correspondence
  deriving DecidableEq, Repr

namespace Operation

def isSelfPair (operation : Operation) : Bool :=
  operation.sourceSchema == operation.targetSchema

/-- The move that an operation applies. -/
def asMove (operation : Operation) : Operation :=
  { operation with kind := .move }

def move (source target : SchemaIndex) : Operation :=
  ⟨.move, source.name, target.name, source.resolve target⟩

/-- A move was given for the conversion of another pair. -/
structure PairMismatch where
  move : Operation
  source : String
  target : String

def PairMismatch.message (error : PairMismatch) : String :=
  "move " ++ error.move.sourceSchema ++ "->" ++ error.move.targetSchema ++
    " does not match conversion " ++ error.source ++ "->" ++ error.target

/-- The conversion of a pair that takes its assignments from a given move of that pair. -/
def conversionBy (source target : SchemaIndex) (move : Operation) :
    Except PairMismatch (Option Operation) :=
  if !target.schema.defaultConstructible then .ok none
  else if move.sourceSchema = source.name ∧ move.targetSchema = target.name then
    .ok (some ⟨.convert, source.name, target.name, move.correspondences⟩)
  else .error ⟨move, source.name, target.name⟩

def conversion? (source target : SchemaIndex) : Option Operation :=
  if target.schema.defaultConstructible then
    some ⟨.convert, source.name, target.name, source.resolve target⟩
  else none

end Operation

end Fieldwise
