import Fieldwise.Number.Whole
import Fieldwise.Yaml.Cursor

/-! # YAML tags

A tag says what a node stands for. A plain scalar without a tag gets one by its form: flags,
numbers, dates, null and the marks for merging and for a default value are recognised, all else is
a text. -/

namespace Fieldwise.Yaml

inductive Tag where
  | null
  | bool
  | int
  | float
  | binary
  | timestamp
  | omap
  | pairs
  | set
  | str
  | seq
  | map
  | merge
  | value
  | other (name : String)
  deriving DecidableEq, Repr

namespace Tag

/-- How the full names of the known tags begin. -/
def space : String :=
  "tag:yaml.org,2002:"

/-- The known tags and the ends of their full names. -/
def known : List (String × Tag) :=
  [("null", null), ("bool", bool), ("int", int), ("float", float), ("binary", binary),
    ("timestamp", timestamp), ("omap", omap), ("pairs", pairs), ("set", set), ("str", str),
    ("seq", seq), ("map", map), ("merge", merge), ("value", value)]

def ofName (name : String) : Tag :=
  match known.find? fun entry => space ++ entry.1 == name with
  | some entry => entry.2
  | none => other name

end Tag

/-! ## Forms of plain scalars -/

def dropSign : List Char → List Char
  | '+' :: rest => rest
  | '-' :: rest => rest
  | chars => chars

/-- A nonempty text over a class of characters and underscores. -/
def isRun (test : Char → Bool) (chars : List Char) : Bool :=
  !chars.isEmpty && chars.all fun char => test char || char == '_'

/-- A digit and then digits and underscores. -/
def isNumeral (chars : List Char) : Bool :=
  startsWith isDecimal chars && isRun isDecimal chars

/-- A part after a colon in a number of base sixty. -/
def isSixtieth : List Char → Bool
  | [digit] => isDecimal digit
  | [ten, digit] => '0' ≤ ten && ten ≤ '5' && isDecimal digit
  | _ => false

/-- A number of base sixty whose first part passes a test. -/
def isSexagesimal (test : List Char → Bool) (chars : List Char) : Bool :=
  match Text.pieces ':' chars with
  | first :: second :: others => test first && (second :: others).all isSixtieth
  | _ => false

/-- The forms of whole numbers in the bases two, eight, ten, sixteen and sixty. -/
def isWholeForm (chars : List Char) : Bool :=
  match dropSign chars with
  | '0' :: 'b' :: digits => isRun (fun char => char == '0' || char == '1') digits
  | '0' :: 'x' :: digits => isRun (fun char => (Text.hexDigitValue? char).isSome) digits
  | ['0'] => true
  | '0' :: digits => isRun (fun char => '0' ≤ char && char ≤ '7') digits
  | chars => isNumeral chars || isSexagesimal isNumeral chars

/-- An exponent with its sign, or nothing. -/
def isExponent : List Char → Bool
  | [] => true
  | mark :: sign :: digits =>
    (mark == 'e' || mark == 'E') && (sign == '+' || sign == '-') && !digits.isEmpty &&
      digits.all isDecimal
  | _ => false

/-- The digits of a fraction and underscores, and then an exponent or nothing. -/
def isFraction (chars : List Char) : Bool :=
  isExponent (chars.dropWhile fun char => isDecimal char || char == '_')

/-- The forms of numbers with a point. -/
def isRealForm (chars : List Char) : Bool :=
  let unsigned := dropSign chars
  let whole := unsigned.takeWhile (· != '.')
  match unsigned.dropWhile (· != '.') with
  | '.' :: fraction =>
    (isNumeral whole && isFraction fraction) ||
      (isSexagesimal isNumeral whole && fraction.all fun char => isDecimal char || char == '_') ||
      (whole.isEmpty && (["inf", "Inf", "INF"].contains (String.ofList fraction) ||
        (unsigned.length == chars.length &&
          ((startsWith isDecimal fraction && isFraction fraction) ||
            ["nan", "NaN", "NAN"].contains (String.ofList fraction)))))
  | _ => false

/-- The digits of a date, and those of a time with its zone, if there is one. -/
structure TimeParts where
  year : List Char
  month : List Char
  day : List Char
  clock : Option (List Char × List Char × List Char × List Char)
  zone : Option (Option (Bool × List Char × List Char))
  deriving DecidableEq, Repr

/-- Takes between `least` and `most` digits. -/
def takeDigits? (least most : Nat) (chars : List Char) : Option (List Char × List Char) :=
  let digits := (chars.take most).takeWhile isDecimal
  if least ≤ digits.length then some (digits, chars.drop digits.length) else none

/-- The rest of a text after an expected character. -/
def after? (mark : Char) : List Char → Option (List Char)
  | char :: rest => if char = mark then some rest else none
  | [] => none

/-- The zone at the end of a time: none, UTC, or a signed distance. -/
def zoneParts? (chars : List Char) : Option (Option (Option (Bool × List Char × List Char))) :=
  match chars.dropWhile isBlank with
  | [] => if chars.isEmpty then some none else none
  | ['Z'] => some (some none)
  | sign :: rest => do
    if sign != '+' && sign != '-' then none
    let (hours, rest) ← takeDigits? 1 2 rest
    match rest with
    | [] => return some (some (sign == '-', hours, []))
    | rest =>
      let (minutes, rest) ← takeDigits? 2 2 (← after? ':' rest)
      if rest.isEmpty then return some (some (sign == '-', hours, minutes)) else none

/-- The time after a day, up to the end of the text. -/
def clockParts? (chars : List Char) :
    Option ((List Char × List Char × List Char × List Char) ×
      Option (Option (Bool × List Char × List Char))) := do
  let rest ← match chars with
    | 'T' :: rest => some rest
    | 't' :: rest => some rest
    | chars => if startsWith isBlank chars then some (chars.dropWhile isBlank) else none
  let (hour, rest) ← takeDigits? 1 2 rest
  let (minute, rest) ← takeDigits? 2 2 (← after? ':' rest)
  let (second, rest) ← takeDigits? 2 2 (← after? ':' rest)
  let (fraction, rest) := match rest with
    | '.' :: rest => (rest.takeWhile isDecimal, rest.dropWhile isDecimal)
    | rest => ([], rest)
  return ((hour, minute, second, fraction), ← zoneParts? rest)

def timeParts? (chars : List Char) : Option TimeParts := do
  let (year, rest) ← takeDigits? 4 4 chars
  let (month, rest) ← takeDigits? 1 2 (← after? '-' rest)
  let (day, rest) ← takeDigits? 1 2 (← after? '-' rest)
  match rest with
  | [] => return ⟨year, month, day, none, none⟩
  | rest =>
    let (clock, zone) ← clockParts? rest
    return ⟨year, month, day, some clock, zone⟩

/-- The forms of dates and times. A date alone has two digits for the month and two for the day. -/
def isTimeForm (chars : List Char) : Bool :=
  match timeParts? chars with
  | none => false
  | some parts => parts.clock.isSome || (parts.month.length == 2 && parts.day.length == 2)

def flagWords : List String :=
  ["yes", "Yes", "YES", "no", "No", "NO", "true", "True", "TRUE", "false", "False", "FALSE", "on",
    "On", "ON", "off", "Off", "OFF"]

def nullWords : List String :=
  ["~", "null", "Null", "NULL", ""]

/-- A line break at the end of a text is passed over where its form is recognised. -/
def dropLastBreak (chars : List Char) : List Char :=
  if 1 < chars.length ∧ chars.getLast? = some '\n' then chars.dropLast else chars

def Tag.ofPlain (text : String) : Tag :=
  let chars := dropLastBreak text.toList
  let word := String.ofList chars
  if flagWords.contains word then .bool
  else if isRealForm chars then .float
  else if isWholeForm chars then .int
  else if word = "<<" then .merge
  else if nullWords.contains word then .null
  else if isTimeForm chars then .timestamp
  else if word = "=" then .value
  else if ["!", "&", "*"].contains word then .other (Tag.space ++ "yaml")
  else .str

end Fieldwise.Yaml
