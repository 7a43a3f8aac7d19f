import Fieldwise.Type.Basic

/-! # Shapes of types

A type is optional if it is the marker applied to exactly one argument, and plain otherwise. Only
one level is looked at, so what stands inside a marker is compared as it is written. -/

namespace Fieldwise

/-- A classified type: whether it is optional, and the type inside. -/
structure Shape where
  optional : Bool
  inner : TypeExpr
  deriving DecidableEq, Repr

def Shape.render (shape : Shape) : String :=
  (if shape.optional then "Optional(" else "Plain(") ++ shape.inner.render ++ ")"

/-- Classifies a type; only the last segments of the name and of the marker are compared. -/
def TypeExpr.shape (marker : String) (type : TypeExpr) : Shape :=
  match type.arguments with
  | [inner] => if type.head = lastSegment marker then ⟨true, inner⟩ else ⟨false, type⟩
  | _ => ⟨false, type⟩

end Fieldwise
