import Fieldwise.Source.Expression

/-! # The grammar of patterns

The patterns of a case distinction are only checked, since no record type can be declared in one. -/

namespace Fieldwise.Source.Pattern

open Reader

def isImaginary (text : List Char) : Bool :=
  text.getLast? == some 'j'

/-- A number with an optional sign, or the sum of a real and an imaginary one. -/
def number : Reader Unit := do
  let _ ← acceptsMark "-"
  match ← peek with
  | .number text =>
    skip
    if (← seesMark "+") || (← seesMark "-") then
      if isImaginary text then fail "real number required in complex literal"
      else
        skip
        match ← peek with
        | .number other =>
          if isImaginary other then skip else fail "imaginary number required in complex literal"
        | _ => fail
  | _ => fail

/-- Whether a name can be bound: it is not the wildcard, and no member, argument list or value
follows. -/
def bindsHere : Reader Bool := do
  match nameOf? (← peek), ← peekSecond with
  | some text, next =>
    return text != "_" && next != .mark "." && next != .mark "(" && next != .mark "="
  | none, _ => return false

def binding : Reader Unit := do
  if ← bindsHere then skip else fail

def moreSegments : Reader (List Unit) :=
  many do
    if ← acceptsMark "." then
      let _ ← name
      return some ()
    else return none

def starOr (pattern : Reader Unit) : Reader Bool := do
  if ← acceptsMark "*" then
    if ← acceptsWord "_" then return true
    else
      binding
      return true
  else
    pattern
    return false

/-- The items of a sequence up to a closing mark, which is taken. -/
def sequenceItems (pattern : Reader Unit) (close : String) : Reader (List Bool × Bool) := do
  if ← acceptsMark close then return ([], true)
  else
    let items ← commaList (· == .mark close) (starOr pattern)
    mark close
    return items

def mappingKey (rules : Rules) : Reader Unit := do
  match ← peek with
  | .number _ => number
  | .mark "-" => number
  | .string _ =>
    let _ ← rules.strings
  | .name text =>
    if (Rules.constantWords.lookup text).isSome then skip
    else
      let _ ← name
      let segments ← moreSegments
      if segments.isEmpty then fail
  | _ => fail

/-- The items of a mapping pattern. A doubly starred name must be the last. -/
def mappingItems (rules : Rules) (pattern : Reader Unit) : Nat → Reader Unit
  | 0 => fail
  | fuel + 1 => do
    if ← acceptsMark "\x7d" then pure ()
    else if ← acceptsMark "**" then
      binding
      let _ ← acceptsMark ","
      mark "\x7d"
    else
      mappingKey rules
      mark ":"
      pattern
      if ← acceptsMark "," then mappingItems rules pattern fuel else mark "\x7d"

/-- The arguments of a class pattern. After a named one only named ones may follow. -/
def classArguments (pattern : Reader Unit) : Nat → Bool → Reader Unit
  | 0, _ => fail
  | fuel + 1, named => do
    if ← acceptsMark ")" then pure ()
    else
      let isNamed := (nameOf? (← peek)).isSome && (← peekSecond) == .mark "="
      if isNamed then
        skip
        skip
        pattern
      else if named then fail
      else pattern
      if ← acceptsMark "," then classArguments pattern fuel isNamed else mark ")"

/-- A pattern without alternatives. -/
def closed (rules : Rules) (pattern : Reader Unit) : Reader Unit := do
  match ← peek with
  | .number _ => number
  | .mark "-" => number
  | .string _ =>
    let _ ← rules.strings
  | .mark "(" =>
    skip
    let (items, isSequence) ← sequenceItems pattern ")"
    if items == [true] && !isSequence then fail
  | .mark "[" =>
    skip
    let _ ← sequenceItems pattern "]"
  | .mark "\x7b" =>
    skip
    mappingItems rules pattern ((← get).length + 1)
  | .name text =>
    if (Rules.constantWords.lookup text).isSome then skip
    else if ← bindsHere then skip
    else if text == "_" then skip
    else
      let _ ← name
      let segments ← moreSegments
      if ← acceptsMark "(" then classArguments pattern ((← get).length + 1) false
      else if segments.isEmpty || (← seesMark "=") then fail
  | _ => fail

def step (rules : Rules) (pattern : Reader Unit) : Reader Unit := do
  closed rules pattern
  let _ ← many do
    if ← acceptsMark "|" then
      closed rules pattern
      return some ()
    else return none
  if ← acceptsWord "as" then binding

def ofDepth (rules : Rules) (depth : Nat) : Reader Unit :=
  knot (fail "nested too deeply") (step rules) depth

/-- The patterns of a case: several, or one with a comma after it, make a sequence. A single starred
one needs the comma. -/
def topLevel (pattern : Reader Unit) : Reader Unit := do
  let ends := fun (kind : LexemeKind) => kind == .mark ":" || kind == .name "if"
  let (items, isSequence) ← commaList ends (starOr pattern)
  if items == [true] && !isSequence then fail

end Fieldwise.Source.Pattern
