import Fieldwise.Datum
import Fieldwise.Text.Utf8

/-! # Validation of documents

A document is checked against a record of declared fields, and every fault is reported with the path
that leads to it. Faults come in the order of the declared fields, those of unknown keys last.
`Checked` collects the faults of independent parts instead of stopping at the first. -/

namespace Fieldwise

/-- One step of the path to a fault. -/
inductive PathStep where
  | key (name : String)
  | index (number : Int)
  deriving DecidableEq, Repr

/-- What can be wrong with a part of a document. -/
inductive Fault where
  | missing
  | unknownKey
  | keyNoText
  | notRecord (model : String)
  | notText
  | notUnicode
  | notSequence
  | notFlag
  | unreadableFlag
  | notChoice (choices : List String)
  | rejected (reason : String)
  deriving DecidableEq, Repr

/-- The values of a choice, the last one after `or`. -/
def choiceText : List String → String
  | [] => ""
  | [only] => Text.quoted only
  | [first, last] => Text.quoted first ++ " or " ++ Text.quoted last
  | first :: rest => Text.quoted first ++ ", " ++ choiceText rest

namespace Fault

/-- The name of a kind of fault. -/
def code : Fault → String
  | missing => "missing"
  | unknownKey => "extra_forbidden"
  | keyNoText => "invalid_key"
  | notRecord _ => "model_type"
  | notText => "string_type"
  | notUnicode => "string_unicode"
  | notSequence => "tuple_type"
  | notFlag => "bool_type"
  | unreadableFlag => "bool_parsing"
  | notChoice _ => "enum"
  | rejected _ => "value_error"

def message : Fault → String
  | missing => "Field required"
  | unknownKey => "Extra inputs are not permitted"
  | keyNoText => "Keys should be strings"
  | notRecord model => "Input should be a valid dictionary or instance of " ++ model
  | notText => "Input should be a valid string"
  | notUnicode =>
    "Input should be a valid string, unable to parse raw data as a unicode string"
  | notSequence => "Input should be a valid tuple"
  | notFlag => "Input should be a valid boolean"
  | unreadableFlag => "Input should be a valid boolean, unable to interpret input"
  | notChoice choices => "Input should be " ++ choiceText choices
  | rejected reason => "Value error, " ++ reason

end Fault

structure Detail where
  path : List PathStep
  fault : Fault
  deriving DecidableEq, Repr

/-- All faults of a document that was checked against a model. -/
structure Invalid where
  model : String
  details : List Detail
  deriving DecidableEq, Repr

def PathStep.text : PathStep → String
  | key name => name
  | index number => toString number

/-- One line for the model, then two lines for each fault. -/
def Invalid.message (invalid : Invalid) : String :=
  let count := invalid.details.length
  let head := toString count ++ " validation error" ++ (if count = 1 then "" else "s") ++ " for " ++
    invalid.model
  "\n".intercalate (head :: invalid.details.flatMap fun detail =>
    (if detail.path.isEmpty then [] else [".".intercalate (detail.path.map PathStep.text)]) ++
      ["  " ++ detail.fault.message])

/-- A checked value, or all its faults. -/
abbrev Checked (α : Type) :=
  Except (List Detail) α

namespace Checked

/-- A single fault of the value itself. -/
def fail {α : Type} (fault : Fault) : Checked α :=
  .error [⟨[], fault⟩]

/-- Two independent parts; the faults of both count. -/
def both {α β : Type} (first : Checked α) (second : Checked β) : Checked (α × β) :=
  match first, second with
  | .ok left, .ok right => .ok (left, right)
  | .error details, .ok _ => .error details
  | .ok _, .error details => .error details
  | .error details, .error more => .error (details ++ more)

/-- Leads the paths of all faults through one more step. -/
def within {α : Type} (step : PathStep) (checked : Checked α) : Checked α :=
  checked.mapError fun details => details.map fun detail =>
    ⟨step :: detail.path, detail.fault⟩

def named {α : Type} (model : String) (checked : Checked α) : Except Invalid α :=
  checked.mapError fun details => ⟨model, details⟩

end Checked

namespace Datum

/-- A text; bytes are one if they are UTF-8. -/
def checkText : Datum → Checked String
  | text value => .ok value
  | bytes value =>
    match Text.decode value with
    | .ok value => .ok value
    | .error _ => .fail .notUnicode
  | _ => .fail .notText

/-- One more than the largest whole number of 64 bits. -/
def wordBound : Int :=
  0x8000000000000000

def trueWords : List String :=
  ["true", "t", "yes", "y", "on", "1"]

def falseWords : List String :=
  ["false", "f", "no", "n", "off", "0"]

/-- A flag written as a word, in any mixture of cases. -/
def wordFlag (word : String) : Checked Bool :=
  let lower := String.ofList (word.toList.map Char.toLower)
  if lower ∈ trueWords then .ok true
  else if lower ∈ falseWords then .ok false
  else .fail .unreadableFlag

/-- A flag written as a number: one or zero. -/
def numberFlag (number : Int) : Checked Bool :=
  if number = 1 then .ok true
  else if number = 0 then .ok false
  else .fail .unreadableFlag

/-- A flag, or a word or number that stands for one. Numbers beyond 64 bits are no flags at all. -/
def checkFlag : Datum → Checked Bool
  | flag value => .ok value
  | text value => wordFlag value
  | bytes value =>
    match Text.decode value with
    | .ok value => wordFlag value
    | .error _ => .fail .notFlag
  | whole value =>
    if -wordBound ≤ value ∧ value < wordBound then numberFlag value else .fail .notFlag
  | real value =>
    match value.whole? with
    | some number =>
      if -wordBound < number ∧ number < wordBound then numberFlag number else .fail .notFlag
    | none => .fail .notFlag
  | _ => .fail .notFlag

/-- Checks items one by one, counted from `index`. -/
def checkEach {α : Type} (check : Datum → Checked α) (index : Nat) : List Datum → Checked (List α)
  | [] => .ok []
  | item :: rest =>
    (((check item).within (.index index)).both (checkEach check (index + 1) rest)).map
      fun (first, others) => first :: others

/-- The items of a list, a tuple or a set. -/
def items? : Datum → Option (List Datum)
  | list items => some items
  | tuple items => some items
  | set items => some items
  | _ => none

def checkItems {α : Type} (check : Datum → Checked α) (datum : Datum) : Checked (List α) :=
  match datum.items? with
  | some items => checkEach check 0 items
  | none => .fail .notSequence

/-- The step to the value of a key. -/
def keyStep : Datum → PathStep
  | text name => .key name
  | flag value => .index (if value then 1 else 0)
  | whole value =>
    if -wordBound ≤ value ∧ value < wordBound then .index value else .key (toString value)
  | key => .key key.show

/-- The faults of keys that are not declared. -/
def strayKeys (declared : List String) (entries : List (Datum × Datum)) : List Detail :=
  entries.filterMap fun (key, _) =>
    match key with
    | text name => if name ∈ declared then none else some ⟨[.key name], .unknownKey⟩
    | key => some ⟨[keyStep key], .keyNoText⟩

def required {α : Type} (entries : List (Datum × Datum)) (name : String)
    (check : Datum → Checked α) : Checked α :=
  Checked.within (.key name) <|
    match lookup? name entries with
    | some value => check value
    | none => .fail .missing

def defaulted {α : Type} (entries : List (Datum × Datum)) (name : String) (default : α)
    (check : Datum → Checked α) : Checked α :=
  Checked.within (.key name) <|
    match lookup? name entries with
    | some value => check value
    | none => .ok default

/-- Adds the faults of undeclared keys to those of the declared fields. -/
def closed {α : Type} (declared : List String) (entries : List (Datum × Datum))
    (fields : Checked α) : Checked α :=
  match strayKeys declared entries with
  | [] => fields
  | stray =>
    match fields with
    | .ok _ => .error stray
    | .error details => .error (details ++ stray)

def checkRecord (model : String) : Datum → Checked (List (Datum × Datum))
  | mapping entries => .ok entries
  | _ => .fail (.notRecord model)

/-- A text that passes a test, or the reason why it does not. -/
def checkTextBy {α : Type} (test : String → Except String α) (datum : Datum) : Checked α :=
  match datum.checkText with
  | .ok value => (test value).mapError fun reason => [⟨[], .rejected reason⟩]
  | .error details => .error details

/-- One of the values of a vocabulary. -/
def checkChoice {α : Type} (choices : List (String × α)) (datum : Datum) : Checked α :=
  match datum with
  | text value =>
    match choices.lookup value with
    | some choice => .ok choice
    | none => .fail (.notChoice (choices.map (·.1)))
  | _ => .fail (.notChoice (choices.map (·.1)))

end Datum

end Fieldwise
