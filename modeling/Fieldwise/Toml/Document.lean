import Fieldwise.Toml.Tables

/-! # TOML documents

A document is a sequence of lines: an entry of the current table, the header of a table or of an
item of an array of tables, or nothing. Each may end with a comment. -/

namespace Fieldwise.Toml

/-- A change that must be possible. -/
def require {α : Type} (result : Option α) : Except Error α :=
  match result with
  | some value => .ok value
  | none => .error .malformed

def flag? (chars : List Char) : Option (Datum × List Char) :=
  if "true".toList.isPrefixOf chars then some (.flag true, chars.drop 4)
  else if "false".toList.isPrefixOf chars then some (.flag false, chars.drop 5)
  else none

/-- Reads a value that holds no other values. -/
def readScalar (chars : List Char) : Except Error (Datum × List Char) :=
  match readString? chars with
  | some read => read.map fun (inner, rest) => (.text (String.ofList inner), rest)
  | none =>
    let found := ((flag? chars).map Except.ok).or ((time? chars).or
      (((basedNumber? chars).map Except.ok).or ((decimalNumber? chars).or
        ((specialNumber? chars).map Except.ok))))
    found.getD (.error .malformed)

mutual

def readValue : Nat → List Char → Except Error (Datum × List Char)
  | 0, _ => .error .malformed
  | fuel + 1, chars =>
    match chars with
    | '[' :: rest => readItems fuel [] rest
    | '{' :: rest =>
      match skipBlanks rest with
      | '}' :: rest => .ok (.mapping [], rest)
      | rest => readInline fuel [] [] rest
    | _ => readScalar chars

/-- Reads the items of an array up to its closing bracket; `done` holds those before, last first. -/
def readItems : Nat → List Datum → List Char → Except Error (Datum × List Char)
  | 0, _, _ => .error .malformed
  | fuel + 1, done, chars => do
    match ← skipLines (chars.length + 1) chars with
    | ']' :: rest => return (.list done.reverse, rest)
    | rest => do
      let (item, rest) ← readValue fuel rest
      match ← skipLines (rest.length + 1) rest with
      | ']' :: rest => return (.list (item :: done).reverse, rest)
      | ',' :: rest => readItems fuel (item :: done) rest
      | _ => throw .malformed

/-- Reads the entries of an inline table up to its closing brace, given the entries before and the
keys under which nothing changes. -/
def readInline :
    Nat → Entries → List Key → List Char → Except Error (Datum × List Char)
  | 0, _, _, _ => .error .malformed
  | fuel + 1, table, fixed, chars => do
    let (key, rest) ← readKey (chars.length + 1) chars
    let (value, rest) ← readValue fuel (skipBlanks (← require (after? '=' rest)))
    if fixed.any (·.isPrefixOf key) then throw .malformed
    let table ← require (addEntry false key.dropLast (key.getLastD "") value table)
    match skipBlanks rest with
    | '}' :: rest => return (.mapping table, rest)
    | ',' :: rest =>
      readInline fuel table (if isFixed value then key :: fixed else fixed) (skipBlanks rest)
    | _ => throw .malformed

end

/-- Reads the statement at the front of a line that is not empty. -/
def readStatement (draft : Draft) (chars : List Char) : Except Error (Draft × List Char) := do
  match chars with
  | '[' :: '[' :: rest => do
    let (key, rest) ← readKey (rest.length + 1) (skipBlanks rest)
    let draft ← require (draft.declareItem key)
    return (draft, ← require ((after? ']' rest).bind (after? ']')))
  | '[' :: rest => do
    let (key, rest) ← readKey (rest.length + 1) (skipBlanks rest)
    let draft ← require (draft.declareTable key)
    return (draft, ← require (after? ']' rest))
  | '#' :: _ => return (draft, chars)
  | _ => do
    let (key, rest) ← readKey (chars.length + 1) chars
    let rest := skipBlanks (← require (after? '=' rest))
    let (value, rest) ← readValue (rest.length + 1) rest
    return (← require (draft.set key value), rest)

def readLines : Nat → Draft → List Char → Except Error Draft
  | 0, draft, _ => .ok draft
  | fuel + 1, draft, chars =>
    match skipBlanks chars with
    | [] => .ok draft
    | '\n' :: rest => readLines fuel draft rest
    | chars => do
      let (draft, rest) ← readStatement draft chars
      match ← skipComment (skipBlanks rest) with
      | [] => return draft
      | '\n' :: rest => readLines fuel draft rest
      | _ => throw .malformed

/-- Line ends of two characters become line feeds. -/
def joinLineEnds : List Char → List Char
  | '\r' :: '\n' :: rest => '\n' :: joinLineEnds rest
  | char :: rest => char :: joinLineEnds rest
  | [] => []

def read (text : String) : Except Error Entries :=
  let chars := joinLineEnds text.toList
  (readLines (chars.length + 1) {} chars).map (·.root)

def Error.message : Error → String
  | malformed => "the text is no TOML document"
  | longNumber digits => longNumberMessage digits

end Fieldwise.Toml
