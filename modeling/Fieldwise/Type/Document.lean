import Fieldwise.Type.Reader
import Fieldwise.Validation

/-! # Types in documents

A type may be written as a record of its name and its arguments instead of as a text. -/

namespace Fieldwise.TypeExpr

/-- The name of a type: blanks around it do not count, and something must be left of it. -/
def checkName (datum : Datum) : Checked String :=
  datum.checkTextBy fun name =>
    if Text.isBlankText name then .error blankNameMessage else .ok (Text.strip name)

def modelName : String :=
  "TypeExpr"

mutual

def ofDatum : Datum → Checked TypeExpr
  | .mapping entries =>
    Datum.closed ["name", "args"] entries <|
      ((Datum.required entries "name" checkName).both
        ((argumentsOf entries).within (.key "args"))).map fun (name, arguments) => mk name arguments
  | _ => .fail (.notRecord modelName)

/-- The arguments among the entries of a record; without the key there are none. -/
def argumentsOf : List (Datum × Datum) → Checked (List TypeExpr)
  | [] => .ok []
  | (.text "args", value) :: _ => ofItems value
  | _ :: rest => argumentsOf rest

def ofItems : Datum → Checked (List TypeExpr)
  | .list items => ofEach 0 items
  | .tuple items => ofEach 0 items
  | .set items => ofEach 0 items
  | _ => .fail .notSequence

/-- Checks arguments one by one, counted from `index`. -/
def ofEach (index : Nat) : List Datum → Checked (List TypeExpr)
  | [] => .ok []
  | item :: rest =>
    (((ofDatum item).within (.index index)).both (ofEach (index + 1) rest)).map
      fun (first, others) => first :: others

end

end Fieldwise.TypeExpr

namespace Fieldwise.Shape

def ofDatum (check : Datum → Checked TypeExpr) (datum : Datum) : Checked (Bool × TypeExpr) := do
  let entries ← datum.checkRecord "TypeShape"
  Datum.closed ["optional", "inner"] entries <|
    (Datum.required entries "optional" Datum.checkFlag).both
      (Datum.required entries "inner" check)

end Fieldwise.Shape
