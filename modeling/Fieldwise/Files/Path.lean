import Fieldwise.Text.CodeRanges

/-! # Paths

A path is a root, which a relative path lacks, and steps. Repeated separators, steps to the same
place and a separator at the end are not part of it; steps to the parent are. -/

namespace Fieldwise

structure Path where
  root : String
  steps : List String
  deriving DecidableEq, Repr

namespace Path

/-- The root of a path. Exactly two separators at its start are kept apart from one. -/
def rootOf : List Char → String
  | '/' :: '/' :: '/' :: _ => "/"
  | '/' :: '/' :: _ => "//"
  | '/' :: _ => "/"
  | _ => ""

def ofText (text : String) : Path :=
  ⟨rootOf text.toList,
    ((Text.pieces '/' text.toList).map String.ofList).filter fun step => step != "" && step != "."⟩

def text (path : Path) : String :=
  if path.root.isEmpty ∧ path.steps.isEmpty then "."
  else path.root ++ "/".intercalate path.steps

/-- The last step; empty if there is none. -/
def name (path : Path) : String :=
  path.steps.getLastD ""

def parent (path : Path) : Path :=
  { path with steps := path.steps.dropLast }

/-- The end of the name from its last point on. A point at the start or at the end of the name
begins no suffix. -/
def suffix (path : Path) : String :=
  let chars := path.name.toList
  let after := (chars.reverse.takeWhile (· != '.')).reverse
  let stem := chars.length - after.length - 1
  if after.length < chars.length ∧ 0 < stem ∧ after ≠ [] then String.ofList ('.' :: after) else ""

end Path

end Fieldwise
