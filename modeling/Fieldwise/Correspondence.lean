import Fieldwise.MatchKind
import Fieldwise.Schema.Index

/-! # Correspondences

Two fields correspond if they have the same name and their types agree inside the optional level.
The correspondences of an ordered pair of schemas come in the target's declaration order. -/

namespace Fieldwise

/-- A matched pair of fields and how the value is written. -/
structure Correspondence where
  sourceField : String
  targetField : String
  kind : MatchKind
  deriving DecidableEq, Repr

/-- How a shape is written into another; shapes with different inner types do not match. -/
def Shape.match? (source target : Shape) : Option MatchKind :=
  if source.inner = target.inner then some (.ofOptional source.optional target.optional) else none

namespace SchemaIndex

/-- How a source writes the field of a target, if the two correspond. -/
def correspondence? (source target : SchemaIndex) (field : Field) : Option Correspondence := do
  let shape ← source.shape? field.name
  let kind ← shape.match? (target.shapeOf field)
  return ⟨field.name, field.name, kind⟩

/-- The correspondences for moving a source into a target. -/
def resolve (source target : SchemaIndex) : List Correspondence :=
  target.schema.fields.filterMap (correspondence? source target)

end SchemaIndex

end Fieldwise
