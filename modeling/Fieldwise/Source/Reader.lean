import Fieldwise.Source.Lexeme
import Fieldwise.Text.Compatibility

/-! # Readers of lexemes

A reader takes lexemes from the front of a list and yields what they mean, or the fault at which it
stopped. Grammars that refer to themselves are tied together with `knot`: every level of nesting
uses up one unit of a bound that the length of the text supplies. -/

namespace Fieldwise.Source

/-- Reads from the front of a list of lexemes. -/
abbrev Reader (α : Type) :=
  StateT (List Lexeme) (Except SyntaxFault) α

/-- Ties a grammar to itself to a bounded depth. -/
def knot {ρ : Type} (bottom : ρ) (step : ρ → ρ) : Nat → ρ
  | 0 => bottom
  | depth + 1 => step (knot bottom step depth)

namespace Reader

/-- The next lexeme, which stays. -/
def peek : Reader LexemeKind := do
  return ((← get).head?.map (·.kind)).getD .ending

def peekSecond : Reader LexemeKind := do
  return (((← get).drop 1).head?.map (·.kind)).getD .ending

def line : Reader Nat := do
  return ((← get).head?.map (·.line)).getD 0

def fail {α : Type} (reason : String := "invalid syntax") : Reader α := do
  throw ⟨reason, ← line⟩

def skip : Reader Unit :=
  modify (·.drop 1)

def seesMark (mark : String) : Reader Bool := do
  return (← peek) == .mark mark

def seesWord (word : String) : Reader Bool := do
  return (← peek) == .name word

/-- Takes a lexeme if it is the expected one. -/
def accepts (kind : LexemeKind) : Reader Bool := do
  if (← peek) == kind then
    skip
    return true
  else return false

def acceptsMark (mark : String) : Reader Bool :=
  accepts (.mark mark)

def acceptsWord (word : String) : Reader Bool :=
  accepts (.name word)

/-- Takes a lexeme that must come next. -/
def expect (kind : LexemeKind) : Reader Unit := do
  unless ← accepts kind do fail

def mark (text : String) : Reader Unit :=
  expect (.mark text)

def word (text : String) : Reader Unit :=
  expect (.name text)

/-- The name of a lexeme, if it is one that is not reserved. -/
def nameOf? : LexemeKind → Option String
  | .name text => if Text.isReservedWord text then none else some text
  | _ => none

/-- The form in which a name counts: compatible characters are the same. -/
def canonicalName (text : String) : String :=
  if text.toList.all (·.toNat < 128) then text else Text.compatibilityForm text

def name : Reader String := do
  match nameOf? (← peek) with
  | some text =>
    skip
    return canonicalName text
  | none => fail

/-- Repeats a reader as long as it yields something, at most `fuel` times. -/
def repeatFrom {α : Type} (step : Reader (Option α)) : Nat → Reader (List α)
  | 0 => return []
  | fuel + 1 => do
    match ← step with
    | some value => return value :: (← repeatFrom step fuel)
    | none => return []

def many {α : Type} (step : Reader (Option α)) : Reader (List α) := do
  match ← step with
  | some first => return first :: (← repeatFrom step (← get).length)
  | none => return []

/-- Further items, each after a comma. A comma before something that `ends` the list is left out;
the second value tells whether the list ended with a comma. -/
def moreItems {α : Type} (ends : LexemeKind → Bool) (item : Reader α) : Nat → Reader (List α × Bool)
  | 0 => return ([], false)
  | fuel + 1 => do
    if ← acceptsMark "," then
      if ends (← peek) then return ([], true)
      else
        let first ← item
        let (rest, trailing) ← moreItems ends item fuel
        return (first :: rest, trailing)
    else return ([], false)

/-- Items separated by commas; whether there was a comma at the end, or between any two. -/
def commaList {α : Type} (ends : LexemeKind → Bool) (item : Reader α) :
    Reader (List α × Bool) := do
  let first ← item
  if ← seesMark "," then
    let (rest, trailing) ← moreItems ends item (← get).length
    return (first :: rest, trailing || !rest.isEmpty)
  else return ([first], false)

/-- Runs a reader, or another one from the same place if it fails. -/
def orElse {α : Type} (first second : Reader α) : Reader α :=
  fun lexemes =>
    match first lexemes with
    | .ok result => .ok result
    | .error _ => second lexemes

end Reader

end Fieldwise.Source
