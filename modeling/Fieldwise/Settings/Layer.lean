import Fieldwise.Datum
import Fieldwise.Number.Whole
import Fieldwise.Settings
import Fieldwise.Text.Lowercase

/-! # Layers of settings

Settings are built up in layers: a table of loosely typed values is laid over settings that are
already in force. A value that is absent or cannot be used leaves its field alone. Only an infinite
indentation stops the process. -/

namespace Fieldwise

/-- A table gave an infinite number for the indentation. -/
inductive LayerError where
  | infiniteIndent
  deriving DecidableEq, Repr

def LayerError.message : LayerError → String
  | infiniteIndent => "cannot convert float infinity to integer"

namespace Datum

/-- A name: a text that is not blank, without the blanks around it. -/
def nameSetting? : Datum → Option String
  | text value => if Text.isBlankText value then none else some (Text.strip value)
  | _ => none

def truthyWords : List String :=
  ["1", "true", "t", "yes", "y", "on"]

/-- A flag: numbers other than zero and the words for yes are on, all else is off. -/
def flagSetting : Datum → Bool
  | flag value => value
  | whole value => value != 0
  | real value => !value.isZero
  | text value => Text.lowercase (Text.strip value) ∈ truthyWords
  | _ => false

/-- Reads the whole number that ASCII bytes spell. -/
def readWholeBytes? (bytes : List UInt8) : Option Int :=
  if bytes.all (· < 0x80) then
    readWhole? (String.ofList (bytes.map fun byte => Char.ofNat byte.toNat))
  else none

/-- A whole number: fractions are cut off, texts and bytes are read; other values are none. -/
def wholeSetting? : Datum → Except LayerError (Option Int)
  | flag value => .ok (some (if value then 1 else 0))
  | whole value => .ok (some value)
  | real (.infinite _) => .error .infiniteIndent
  | real value => .ok value.truncate?
  | text value => .ok (readWhole? value)
  | bytes value => .ok (readWholeBytes? value)
  | _ => .ok none

end Datum

namespace Settings

/-- The names of all fields in a table. -/
def keys : List String :=
  ["optional_marker", "self_moves", "self_conversions", "strict", "move_prefix", "convert_infix",
    "indent"]

/-- The value of a key, if there is one that makes a name. -/
def layeredName (table : List (Datum × Datum)) (key current : String) : String :=
  ((Datum.lookup? key table).bind Datum.nameSetting?).getD current

/-- The value of a key as a flag, if there is one. -/
def layeredFlag (table : List (Datum × Datum)) (key : String) (current : Bool) : Bool :=
  ((Datum.lookup? key table).map Datum.flagSetting).getD current

/-- The value of a key as a width, if there is one of at least one. -/
def layeredWidth (table : List (Datum × Datum)) (key : String) (current : Int) :
    Except LayerError Int :=
  match Datum.lookup? key table with
  | none => .ok current
  | some value => do
    match ← value.wholeSetting? with
    | some width => return if 1 ≤ width then width else current
    | none => return current

/-- Lays a table over settings. -/
def layer (table : List (Datum × Datum)) (settings : Settings) : Except LayerError Settings := do
  let indent ← layeredWidth table "indent" settings.indent
  return {
    optionalMarker := layeredName table "optional_marker" settings.optionalMarker
    selfMoves := layeredFlag table "self_moves" settings.selfMoves
    selfConversions := layeredFlag table "self_conversions" settings.selfConversions
    strict := layeredFlag table "strict" settings.strict
    movePrefix := layeredName table "move_prefix" settings.movePrefix
    convertInfix := layeredName table "convert_infix" settings.convertInfix
    indent }

/-- Lays a value over settings; only a table changes anything. -/
def layerDatum (datum : Datum) (settings : Settings) : Except LayerError Settings :=
  match datum with
  | .mapping table => settings.layer table
  | _ => .ok settings

def variableName (lead key : String) : String :=
  lead ++ String.ofList (key.toList.map Char.toUpper)

/-- The table of the variables of an environment that are not empty. -/
def environmentTable (lead : String) (lookup : String → Option String) : List (Datum × Datum) :=
  keys.filterMap fun key =>
    match lookup (variableName lead key) with
    | some value => if value.isEmpty then none else some (.text key, .text value)
    | none => none

/-- How the names of variables begin. -/
def environmentLead : String :=
  "CORRESPONDING_"

def layerEnvironment (lead : String) (lookup : String → Option String) (settings : Settings) :
    Except LayerError Settings :=
  settings.layer (environmentTable lead lookup)

end Settings

end Fieldwise
