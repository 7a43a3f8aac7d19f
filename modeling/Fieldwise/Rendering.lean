import Fieldwise.Settings

/-! # Rendering

Operations are written as functions of one module. A move assigns field by field, guarded where only
a present value counts; a conversion builds the default target and calls the move of its pair, or
assigns by itself if that move is not in the module. Two functions of one name are refused. -/

namespace Fieldwise

/-- Two operations that need the same function name. -/
structure NameClash where
  name : String
  deriving DecidableEq, Repr

def NameClash.message (error : NameClash) : String :=
  "two operations render to the same function name " ++ Text.quoted error.name

def Operation.functionName (settings : Settings) (operation : Operation) : String :=
  let source := Naming.lowerSnake operation.sourceSchema
  let target := Naming.lowerSnake operation.targetSchema
  match operation.kind with
  | .move => settings.movePrefix ++ "_" ++ source ++ "_into_" ++ target
  | .convert => target ++ "_" ++ settings.convertInfix ++ "_" ++ source

/-- One level of indentation; none if the width is not positive. -/
def Settings.pad (settings : Settings) : String :=
  String.ofList (List.replicate settings.indent.toNat ' ')

def Correspondence.lines (pad : String) (correspondence : Correspondence) : List String :=
  let read := "rhs." ++ correspondence.sourceField
  let write := "lhs." ++ correspondence.targetField ++ " = " ++ read
  if correspondence.kind.requiresPresence then
    [pad ++ "if " ++ read ++ " is not None:", pad ++ pad ++ write]
  else [pad ++ write]

namespace Operation

/-- The body of a move; without assignments it does nothing. -/
def moveBody (pad : String) (operation : Operation) : List String :=
  match operation.correspondences.flatMap (Correspondence.lines pad) with
  | [] => [pad ++ "pass"]
  | lines => lines

/-- The body of a conversion, given the name of the move to call. -/
def conversionBody (pad : String) (moveName : Option String) (operation : Operation) :
    List String :=
  [pad ++ "lhs = " ++ operation.targetSchema ++ "()"] ++
    (match moveName with
      | some name => [pad ++ name ++ "(lhs, rhs)"]
      | none => operation.correspondences.flatMap (Correspondence.lines pad)) ++
    [pad ++ "return lhs"]

/-- The lines of an operation's function. `moveName` gives the name of the move of a pair, source
first. -/
def lines (settings : Settings) (moveName : String → String → Option String)
    (operation : Operation) : List String :=
  let name := operation.functionName settings
  match operation.kind with
  | .move =>
    ("def " ++ name ++ "(lhs: " ++ operation.targetSchema ++ ", rhs: " ++ operation.sourceSchema ++
      ") -> None:") :: operation.moveBody settings.pad
  | .convert =>
    ("def " ++ name ++ "(rhs: " ++ operation.sourceSchema ++ ") -> " ++ operation.targetSchema ++
      ":") ::
      operation.conversionBody settings.pad
        (moveName operation.sourceSchema operation.targetSchema)

def render (settings : Settings) (moveName : String → String → Option String)
    (operation : Operation) : String :=
  "\n".intercalate (operation.lines settings moveName)

end Operation

namespace Generation

def functionNames (settings : Settings) (generation : Generation) : List String :=
  generation.operations.map (·.functionName settings)

/-- The name of the move of a pair, if the generation has one. -/
def moveName? (settings : Settings) (generation : Generation) (source target : String) :
    Option String :=
  (generation.find? .move source target).map (·.functionName settings)

/-- The line that imports the schemas, and an empty one after it. -/
def importLines (origin : Option String) (generation : Generation) : List String :=
  match origin with
  | none => []
  | some origin =>
    if origin.isEmpty || generation.schemas.isEmpty then []
    else ["from " ++ origin ++ " import " ++ ", ".intercalate generation.schemas, ""]

def moduleLines (settings : Settings) (origin : Option String) (generation : Generation) :
    List String :=
  ["# Generated by corresponding. Do not edit.", "from __future__ import annotations", ""] ++
    generation.importLines origin ++
    ["__all__ = ["] ++
    (generation.functionNames settings).map (fun name => settings.pad ++ "\"" ++ name ++ "\",") ++
    ["]"] ++
    generation.operations.flatMap fun operation =>
      ["", ""] ++ operation.lines settings (generation.moveName? settings)

/-- Renders the module of a generation. `origin` is the module to import the schemas from. -/
def render (settings : Settings) (origin : Option String) (generation : Generation) :
    Except NameClash String :=
  match firstRepeat? (generation.functionNames settings) with
  | some name => .error ⟨name⟩
  | none => .ok ("\n".intercalate (generation.moduleLines settings origin) ++ "\n")

end Generation

end Fieldwise
