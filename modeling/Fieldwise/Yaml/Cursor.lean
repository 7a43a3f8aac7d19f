import Fieldwise.Text.CodeRanges

/-! # Places in a YAML text

A cursor is the rest of a text together with the place where it starts. Columns count characters
from the last line break; a byte order mark takes no column. -/

namespace Fieldwise.Yaml

/-- The characters that end a line. -/
def isBreak (char : Char) : Bool :=
  char == '\n' || char == '\x85' || char == '\u2028' || char == '\u2029'

/-- A blank within a line. -/
def isBlank (char : Char) : Bool :=
  char == ' ' || char == '\t'

/-- A blank or a line break. -/
def isSpace (char : Char) : Bool :=
  isBlank char || isBreak char

/-- Whether a text is at its end or starts with a character of a class. -/
def endsOr (test : Char → Bool) : List Char → Bool
  | [] => true
  | char :: _ => test char

def startsWith (test : Char → Bool) : List Char → Bool
  | [] => false
  | char :: _ => test char

/-- The characters that a text may hold at all. -/
def isAllowed (char : Char) : Bool :=
  let code := char.toNat
  code == 0x09 || code == 0x0a || code == 0x0d || (0x20 ≤ code && code ≤ 0x7e) || code == 0x85 ||
    (0xa0 ≤ code && code ≤ 0xfffd) || 0x10000 ≤ code

/-- The mark that opens (`-`) or closes (`.`) a document, with a gap after it. -/
def isDocumentMark (mark : Char) : List Char → Bool
  | first :: second :: third :: rest =>
    first == mark && second == mark && third == mark && endsOr isSpace rest
  | _ => false

/-- A mark that no scalar continues over. -/
def isDocumentEdge (chars : List Char) : Bool :=
  isDocumentMark '-' chars || isDocumentMark '.' chars

structure Cursor where
  rest : List Char
  index : Nat := 0
  line : Nat := 0
  column : Nat := 0

namespace Cursor

def step (cursor : Cursor) : Cursor :=
  match cursor.rest with
  | [] => cursor
  | char :: rest =>
    if isBreak char then ⟨rest, cursor.index + 1, cursor.line + 1, 0⟩
    else ⟨rest, cursor.index + 1, cursor.line,
      if char = '\ufeff' then cursor.column else cursor.column + 1⟩

def advance : Nat → Cursor → Cursor
  | 0, cursor => cursor
  | count + 1, cursor => advance count cursor.step

def takeWhile (test : Char → Bool) (cursor : Cursor) : List Char × Cursor :=
  let taken := cursor.rest.takeWhile test
  (taken, cursor.advance taken.length)

def skipWhile (test : Char → Bool) (cursor : Cursor) : Cursor :=
  (cursor.takeWhile test).2

def skipSpaces (cursor : Cursor) : Cursor :=
  cursor.skipWhile (· == ' ')

def skipLine (cursor : Cursor) : Cursor :=
  cursor.skipWhile fun char => !isBreak char

def skipComment (cursor : Cursor) : Cursor :=
  if startsWith (· == '#') cursor.rest then cursor.skipLine else cursor

/-- Takes a line break, if there is one; the two separators of Unicode stand for themselves, the
other breaks for a line feed. -/
def takeBreak (cursor : Cursor) : List Char × Cursor :=
  match cursor.rest with
  | char :: _ =>
    if isBreak char then ([if char = '\x85' then '\n' else char], cursor.step) else ([], cursor)
  | [] => ([], cursor)

/-- The fuel that suffices for everything that is left to read. -/
def fuel (cursor : Cursor) : Nat :=
  cursor.rest.length + 1

end Cursor

end Fieldwise.Yaml
