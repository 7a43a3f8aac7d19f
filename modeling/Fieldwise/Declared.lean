import Fieldwise.Source.Printer
import Fieldwise.Type.Reader

/-! # Types of declarations

The type that an expression in a declaration stands for. Names, subscripts and alternatives are
taken apart; a string is read as the text of a type; everything else is kept as one opaque name,
the canonical text of the expression. -/

namespace Fieldwise

/-- Why a declaration has no type. -/
inductive DeclaredError where
  | unprintable (error : Source.PrintError)
  | blankMarker
  | noArgument
  deriving DecidableEq, Repr

def DeclaredError.message : DeclaredError → String
  | unprintable error => error.message
  | blankMarker => TypeExpr.blankNameMessage
  | noArgument => "list index out of range"

namespace Source.Expr

def dotted? : Expr → Option String
  | name text => some text
  | member value label => (dotted? value).map fun base => base ++ "." ++ label
  | _ => none

/-- The last segment of the dotted name that an expression consists of. -/
def head? (expr : Expr) : Option String :=
  expr.dotted?.map TypeExpr.lastSegment

/-- An expression as one opaque name. -/
def opaqueType (expr : Expr) : Except DeclaredError TypeExpr :=
  match expr.text with
  | .ok text => .ok (.bare (Text.strip text))
  | .error error => .error (.unprintable error)

def opaqueTypes : List Expr → Except DeclaredError (List TypeExpr)
  | [] => .ok []
  | first :: rest => do
    let first ← opaqueType first
    return first :: (← opaqueTypes rest)

/-- The type that a string spells; with half of a surrogate pair in it there is none. -/
def spelledType? (marker : String) (codes : List Nat) : Option TypeExpr := do
  let chars ← codes.mapM Text.charOfCode?
  (TypeExpr.read marker (String.ofList chars)).toOption

/-- What a string in the place of a type stands for: the type that it spells, or itself. -/
def quotedType (marker : String) (codes : List Nat) : TypeExpr :=
  (spelledType? marker codes).getD (.bare (Text.quotedCodes codes))

/-- What a literal in the place of a type stands for. -/
def constantType (marker : String) : Constant → Except DeclaredError TypeExpr
  | .text codes _ => .ok (quotedType marker codes)
  | .ellipsis => .ok (.bare "...")
  | other =>
    match other.show with
    | .ok text => .ok (.bare text)
    | .error error => .error (.unprintable error)

def alternatives (marker : String) (members : List TypeExpr) : Except DeclaredError TypeExpr :=
  match TypeExpr.ofAlternatives marker members with
  | .ok type => .ok type
  | .error _ => .error .blankMarker

/-- The heads whose arguments are all values. -/
def valueHead : String :=
  "Literal"

/-- The heads whose arguments after the first are values. -/
def metadataHead : String :=
  "Annotated"

mutual

/-- The types of the alternatives that an expression consists of; most expressions are one. -/
def memberTypes (marker : String) : Expr → Except DeclaredError (List TypeExpr)
  | binary .bitOr left right => do
    let first ← memberTypes marker left
    return first ++ (← memberTypes marker right)
  | constant value => do return [← constantType marker value]
  | name text => .ok [.bare text]
  | member value label =>
    match dotted? value with
    | some base => .ok [.bare (base ++ "." ++ label)]
    | none => do return [← opaqueType (member value label)]
  | subscript value (tuple items) =>
    match dotted? value with
    | none => do return [← opaqueType (subscript value (tuple items))]
    | some outer =>
      let head := TypeExpr.lastSegment outer
      if head = valueHead then do return [.mk outer (← opaqueTypes items)]
      else if head = metadataHead then do return [.mk outer (← describedTypes marker items)]
      else do return [.mk outer (← declaredTypes marker items)]
  | subscript value index =>
    match dotted? value with
    | none => do return [← opaqueType (subscript value index)]
    | some outer =>
      if TypeExpr.lastSegment outer = valueHead then do return [.mk outer [← opaqueType index]]
      else do return [.mk outer [← alternatives marker (← memberTypes marker index)]]
  | expr => do return [← opaqueType expr]

def declaredTypes (marker : String) : List Expr → Except DeclaredError (List TypeExpr)
  | [] => .ok []
  | first :: rest => do
    let first ← alternatives marker (← memberTypes marker first)
    return first :: (← declaredTypes marker rest)

/-- A type with the values that describe it. -/
def describedTypes (marker : String) : List Expr → Except DeclaredError (List TypeExpr)
  | [] => .error .noArgument
  | first :: rest => do
    let first ← alternatives marker (← memberTypes marker first)
    return first :: (← opaqueTypes rest)

end

/-- The type that an expression stands for. -/
def declaredType (marker : String) (expr : Expr) : Except DeclaredError TypeExpr := do
  alternatives marker (← memberTypes marker expr)

end Source.Expr

end Fieldwise
