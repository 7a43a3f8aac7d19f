import Fieldwise.Text.Blank

/-! # Type tokens

A declared type is kept as it is written: an outer name and the arguments in brackets. Two types are
equal only if they are written alike; nothing is known about what a name means. -/

namespace Fieldwise

/-- A type as it is written: a name, or a name applied to arguments. -/
inductive TypeExpr where
  | mk (name : String) (arguments : List TypeExpr)
  deriving Repr, Inhabited

namespace TypeExpr

def name : TypeExpr → String
  | mk name _ => name

def arguments : TypeExpr → List TypeExpr
  | mk _ arguments => arguments

mutual

def decideEq : (first second : TypeExpr) → Decidable (first = second)
  | mk name arguments, mk name' arguments' =>
    if sameName : name = name' then
      match decideEqAll arguments arguments' with
      | isTrue same => isTrue (by rw [sameName, same])
      | isFalse differ => isFalse (by rintro ⟨⟩; exact differ rfl)
    else isFalse (by rintro ⟨⟩; exact sameName rfl)

def decideEqAll : (first second : List TypeExpr) → Decidable (first = second)
  | [], [] => isTrue rfl
  | [], _ :: _ => isFalse (by simp)
  | _ :: _, [] => isFalse (by simp)
  | first :: firsts, second :: seconds =>
    match decideEq first second, decideEqAll firsts seconds with
    | isTrue same, isTrue rest => isTrue (by rw [same, rest])
    | isFalse differ, _ => isFalse (by rintro ⟨⟩; exact differ rfl)
    | _, isFalse differ => isFalse (by rintro ⟨⟩; exact differ rfl)

end

instance : DecidableEq TypeExpr := decideEq

def bare (name : String) : TypeExpr :=
  mk name []

/-- The type of the absent value. -/
def none : TypeExpr :=
  bare "None"

/-- The last segment of a dotted name. -/
def lastSegment (name : String) : String :=
  String.ofList (name.toList.reverse.takeWhile (· != '.')).reverse

def head (type : TypeExpr) : String :=
  lastSegment type.name

mutual

/-- The canonical text of a type. -/
def render : TypeExpr → String
  | mk name [] => name
  | mk name (first :: rest) =>
    name ++ "[" ++ ", ".intercalate (renderAll (first :: rest)) ++ "]"

def renderAll : List TypeExpr → List String
  | [] => []
  | type :: rest => render type :: renderAll rest

end

/-- A type whose name is given as free text: blanks around the name do not count, and there must be
something left of it. -/
def named? (name : String) (arguments : List TypeExpr) : Option TypeExpr :=
  if Text.isBlankText name then Option.none else some (mk (Text.strip name) arguments)

/-- Wraps a type in the optional marker, which must not be blank. -/
def optionalOf? (marker : String) (inner : TypeExpr) : Option TypeExpr :=
  named? marker [inner]

/-- The marker that is used unless another one is configured. -/
def defaultMarker : String :=
  "Optional"

end TypeExpr

end Fieldwise
