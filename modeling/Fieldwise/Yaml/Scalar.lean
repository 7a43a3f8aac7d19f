import Fieldwise.Text.Quoted
import Fieldwise.Yaml.Token

/-! # YAML scalars as they are written

The three ways to write a scalar: plain, between quotes, and as a block of lines. Every reader takes
the cursor before a scalar and gives back its text and the cursor after it. -/

namespace Fieldwise.Yaml

/-- What the breaks of a folded line become: a single line feed is a space, and one that other
breaks follow is dropped. -/
def folded (first others : List Char) : List Char :=
  if first ≠ ['\n'] then first ++ others
  else if others.isEmpty then [' ']
  else others

/-! ## Plain scalars -/

/-- A bracket or comma of a collection in brackets. -/
def isFlowMark (char : Char) : Bool :=
  char == ',' || char == '[' || char == ']' || char == '{' || char == '}'

/-- How many characters of a plain scalar come before the next gap or mark. -/
def plainRun (inFlow : Bool) : List Char → Nat
  | [] => 0
  | char :: rest =>
    if isSpace char then 0
    else if char == ':' &&
        endsOr (fun next => isSpace next || (inFlow && isFlowMark next)) rest then 0
    else if inFlow && (isFlowMark char || char == '?') then 0
    else plainRun inFlow rest + 1

/-- The empty lines and leading spaces after a line break: the breaks and the cursor, or nothing if
a mark of a document comes. -/
def plainBreaks : Nat → Cursor → Option (List Char) × Cursor
  | 0, cursor => (none, cursor)
  | fuel + 1, cursor =>
    let cursor := cursor.skipSpaces
    match cursor.takeBreak with
    | ([], _) => (some [], cursor)
    | (first, cursor) =>
      if isDocumentEdge cursor.rest then (none, cursor)
      else
        let (others, cursor) := plainBreaks fuel cursor
        (others.map (first ++ ·), cursor)

/-- The gap after a run of a plain scalar: what it stands for, whether it holds a line break, and
the cursor after it. An empty gap ends the scalar. -/
def plainGap (cursor : Cursor) : List Char × Bool × Cursor :=
  let (spaces, cursor) := cursor.takeWhile (· == ' ')
  match cursor.takeBreak with
  | ([], _) => (spaces, false, cursor)
  | (first, cursor) =>
    if isDocumentEdge cursor.rest then ([], true, cursor)
    else
      match plainBreaks cursor.fuel cursor with
      | (none, cursor) => ([], true, cursor)
      | (some others, cursor) => (folded first others, true, cursor)

/-- A scalar, the cursor after it, and whether a key may follow because a line was ended. -/
structure PlainScalar where
  text : List Char
  cursor : Cursor
  endedLine : Bool

/-- Reads runs of a plain scalar; `gap` stands before the next one and `endedLine` tells whether it
ended a line. -/
def plainRuns (inFlow : Bool) (indent : Int) :
    Nat → List Char → Bool → Cursor → PlainScalar
  | 0, _, endedLine, cursor => ⟨[], cursor, endedLine⟩
  | fuel + 1, gap, endedLine, cursor =>
    let count := if startsWith (· == '#') cursor.rest then 0 else plainRun inFlow cursor.rest
    if count = 0 then ⟨[], cursor, endedLine⟩
    else
      let run := gap ++ cursor.rest.take count
      let (gap, endedLine, cursor) := plainGap (cursor.advance count)
      if gap.isEmpty || startsWith (· == '#') cursor.rest ||
          (!inFlow && cursor.column < indent) then
        ⟨run, cursor, endedLine⟩
      else
        let scalar := plainRuns inFlow indent fuel gap endedLine cursor
        { scalar with text := run ++ scalar.text }

/-- Reads a plain scalar of a collection whose entries are indented by `indent`. -/
def readPlain (inFlow : Bool) (indent : Int) (cursor : Cursor) : PlainScalar :=
  plainRuns inFlow (indent + 1) cursor.fuel [] false cursor

/-! ## Quoted scalars -/

/-- The characters denoted by the one-letter escapes. -/
def letterEscape? : Char → Option Char
  | '0' => some '\x00'
  | 'a' => some '\x07'
  | 'b' => some '\x08'
  | 't' => some '\t'
  | '\t' => some '\t'
  | 'n' => some '\n'
  | 'v' => some '\x0b'
  | 'f' => some '\x0c'
  | 'r' => some '\r'
  | 'e' => some '\x1b'
  | ' ' => some ' '
  | '"' => some '"'
  | '\\' => some '\\'
  | '/' => some '/'
  | 'N' => some '\x85'
  | '_' => some '\xa0'
  | 'L' => some '\u2028'
  | 'P' => some '\u2029'
  | _ => none

/-- The number of digits of an escape by code point. -/
def codeEscapeWidth? : Char → Option Nat
  | 'x' => some 2
  | 'u' => some 4
  | 'U' => some 8
  | _ => none

/-- The character of a hexadecimal code point. Half of a surrogate pair is read as `half`, if that is
given. -/
def codePoint (half : Option Char) (digits : List Char) : Except Error Char :=
  let code := Text.hexValue digits
  if code < 0x110000 then
    match (Text.charOfCode? code).or half with
    | some char => .ok char
    | none => .error .malformed
  else if code < 0x80000000 then .error .codePoint
  else .error .hugeCodePoint

/-- The empty lines and leading blanks inside a quoted scalar. -/
def quotedBreaks : Nat → Cursor → Except Error (List Char × Cursor)
  | 0, _ => .error .malformed
  | fuel + 1, cursor =>
    if isDocumentEdge cursor.rest then .error .malformed
    else
      let cursor := cursor.skipWhile isBlank
      match cursor.takeBreak with
      | ([], _) => .ok ([], cursor)
      | (first, cursor) => do
        let (others, cursor) ← quotedBreaks fuel cursor
        return (first ++ others, cursor)

/-- Blanks and line breaks inside a quoted scalar; blanks at the end of a line are dropped. -/
def quotedGap (cursor : Cursor) : Except Error (List Char × Cursor) :=
  let (blanks, cursor) := cursor.takeWhile isBlank
  match cursor.takeBreak with
  | ([], _) => .ok (blanks, cursor)
  | (first, cursor) => do
    let (others, cursor) ← quotedBreaks cursor.fuel cursor
    return (folded first others, cursor)

/-- Reads an escape after its backslash. An escaped line break stands for the empty lines after
it. -/
def readEscape (half : Option Char) (cursor : Cursor) : Except Error (List Char × Cursor) :=
  match cursor.rest with
  | [] => .error .malformed
  | char :: rest =>
    match letterEscape? char, codeEscapeWidth? char with
    | some meant, _ => .ok ([meant], cursor.step)
    | none, some width => do
      let digits := rest.take width
      if digits.length = width ∧ digits.all fun digit => (Text.hexDigitValue? digit).isSome then
        return ([← codePoint half digits], cursor.advance (width + 1))
      else throw .malformed
    | none, none =>
      if isBreak char then quotedBreaks cursor.fuel cursor.step else .error .malformed

/-- Reads the inside of a quoted scalar up to its closing quote. Single quotes know no escape but
the doubled quote. -/
def readQuoted (half : Option Char) (double : Bool) :
    Nat → Cursor → Except Error (List Char × Cursor)
  | 0, _ => .error .malformed
  | fuel + 1, cursor =>
    match cursor.rest with
    | [] => .error .malformed
    | char :: rest =>
      let goOn := fun (read : List Char × Cursor) => do
        let (others, cursor) ← readQuoted half double fuel read.2
        return (read.1 ++ others, cursor)
      if char = (if double then '"' else '\'') then
        if !double && startsWith (· == '\'') rest then goOn (['\''], cursor.advance 2)
        else .ok ([], cursor.step)
      else if double && char == '\\' then do goOn (← readEscape half cursor.step)
      else if isSpace char then do goOn (← quotedGap cursor)
      else goOn ([char], cursor.step)

/-! ## Block scalars -/

/-- What becomes of the line breaks at the end of a block. -/
inductive Chomping where
  | strip
  | clip
  | keep
  deriving DecidableEq, Repr

/-- The sign that settles the last line breaks. -/
def chomping? : Char → Option Chomping
  | '-' => some .strip
  | '+' => some .keep
  | _ => none

/-- A digit that settles the indentation; zero settles nothing and is refused. -/
def takeIncrement (chars : List Char) : Except Error (Option Nat × List Char) :=
  match chars with
  | char :: rest =>
    if char = '0' then .error .malformed
    else if isDecimal char then .ok (some (decimalValue [char]), rest)
    else .ok (none, chars)
  | [] => .ok (none, [])

/-- A sign, if one stands here. -/
def takeChomping (chars : List Char) : Option Chomping × List Char :=
  match chars with
  | char :: rest =>
    match chomping? char with
    | some chomping => (some chomping, rest)
    | none => (none, chars)
  | [] => (none, [])

/-- The sign and the digit after the mark of a block, in either order, and how many characters they
take. -/
def blockHeader (chars : List Char) : Except Error (Chomping × Option Nat × Nat) := do
  let (before, rest) := takeChomping chars
  let (increment, rest) ← takeIncrement rest
  let (after, rest) := if before.isNone ∧ increment.isSome then takeChomping rest else (none, rest)
  return ((before.or after).getD .clip, increment, chars.length - rest.length)

/-- Skips the rest of a line that may only hold a comment. -/
def skipLineEnd (cursor : Cursor) : Except Error Cursor :=
  let cursor := cursor.skipSpaces.skipComment
  if endsOr isBreak cursor.rest then .ok cursor.takeBreak.2 else .error .malformed

def skipIndent (indent : Nat) (cursor : Cursor) : Cursor :=
  cursor.advance (min (indent - cursor.column) (cursor.rest.takeWhile (· == ' ')).length)

/-- The empty lines before the next line of a block. -/
def blockBreaks (indent : Nat) : Nat → Cursor → List Char × Cursor
  | 0, cursor => ([], cursor)
  | fuel + 1, cursor =>
    let cursor := skipIndent indent cursor
    match cursor.takeBreak with
    | ([], _) => ([], cursor)
    | (first, cursor) =>
      let (others, cursor) := blockBreaks indent fuel cursor
      (first ++ others, cursor)

/-- The empty lines at the start of a block and the widest indentation among them and the next
line. -/
def firstBreaks : Nat → Cursor → List Char × Nat × Cursor
  | 0, cursor => ([], 0, cursor)
  | fuel + 1, cursor =>
    let cursor := cursor.skipSpaces
    match cursor.takeBreak with
    | ([], _) => ([], cursor.column, cursor)
    | (first, next) =>
      let (others, widest, next) := firstBreaks fuel next
      (first ++ others, max cursor.column widest, next)

/-- Reads the lines of a block; `breaks` stand before the next one. -/
def blockLines (fold : Bool) (chomping : Chomping) (indent : Nat) :
    Nat → List Char → Cursor → List Char × Cursor
  | 0, _, cursor => ([], cursor)
  | fuel + 1, breaks, cursor =>
    let (line, next) := cursor.takeWhile fun char => !isBreak char
    let (lineBreak, next) := next.takeBreak
    let (others, next) := blockBreaks indent next.fuel next
    if next.column = indent ∧ next.rest ≠ [] then
      let joined :=
        if fold && lineBreak == ['\n'] && !startsWith isBlank cursor.rest &&
            !startsWith isBlank next.rest then
          (if others.isEmpty then [' '] else [])
        else lineBreak
      let (text, cursor) := blockLines fold chomping indent fuel others next
      (breaks ++ line ++ joined ++ text, cursor)
    else
      let ending := match chomping with
        | .strip => []
        | .clip => lineBreak
        | .keep => lineBreak ++ others
      (breaks ++ line ++ ending, next)

/-- Reads a block of lines after its mark, in a collection whose entries are indented by
`indent`. -/
def readBlock (fold : Bool) (indent : Int) (cursor : Cursor) :
    Except Error (List Char × Cursor) := do
  let (chomping, increment, count) ← blockHeader cursor.rest
  let cursor := cursor.advance count
  if !endsOr (fun char => char == ' ' || isBreak char) cursor.rest then throw .malformed
  let cursor ← skipLineEnd cursor
  let least := max 1 (indent + 1).toNat
  let (breaks, indent, cursor) := match increment with
    | some increment =>
      let indent := least + increment - 1
      let (breaks, cursor) := blockBreaks indent cursor.fuel cursor
      (breaks, indent, cursor)
    | none =>
      let (breaks, widest, cursor) := firstBreaks cursor.fuel cursor
      (breaks, max least widest, cursor)
  if cursor.column = indent ∧ cursor.rest ≠ [] then
    return blockLines fold chomping indent cursor.fuel breaks cursor
  else
    return (if chomping = .keep then breaks else [], cursor)

end Fieldwise.Yaml
