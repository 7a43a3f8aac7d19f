import Fieldwise.Datum
import Fieldwise.Yaml.Tag

/-! # Writing YAML

Data are written as blocks, one entry or item a line. A text is plain if it reads back as that text,
stands between single quotes if it is printable ASCII, and between double quotes with escapes
otherwise. Lines that have grown beyond the width go on in a new line where that changes nothing. -/

namespace Fieldwise.Yaml

/-- Where a scalar is written: the column at which it starts, the width beyond which lines are
broken, and the indentation of the lines that go on. -/
structure Room where
  column : Nat
  width : Nat
  indent : Nat

def newLine (indent : Nat) : List Char :=
  '\n' :: List.replicate indent ' '

/-! ## Styles -/

/-- The ways to write a text. -/
inductive Style where
  | plain
  | single
  | double
  deriving DecidableEq, Repr

/-- A character that needs no escape. -/
def isPlainAscii (char : Char) : Bool :=
  ' ' ≤ char && char ≤ '~'

/-- Whether a space stands next to a line feed. -/
def hasBlankEdge : List Char → Bool
  | first :: second :: rest =>
    (first == ' ' && second == '\n') || (first == '\n' && second == ' ') ||
      hasBlankEdge (second :: rest)
  | _ => false

/-- The marks that no plain text starts with. -/
def reservedMarks : List Char :=
  "#,[]\x7b\x7d&*!|>'\"%@\x60".toList

/-- Whether a colon or a comment mark inside a text would be taken for the mark that it is; the text
before ends with `last`. -/
def hasInnerMark (last : Char) : List Char → Bool
  | [] => false
  | char :: rest =>
    (char == ':' && endsOr (· == ' ') rest) || (char == '#' && last == ' ') ||
      hasInnerMark char rest

/-- Whether a line that starts with a text would be taken for something else. -/
def hasMark (chars : List Char) : Bool :=
  match chars with
  | [] => true
  | first :: rest =>
    "---".toList.isPrefixOf chars || "...".toList.isPrefixOf chars ||
      reservedMarks.contains first ||
      ((first == '?' || first == ':' || first == '-') && endsOr (· == ' ') rest) ||
      hasInnerMark first rest

def styleOf (text : String) : Style :=
  let chars := text.toList
  if !(chars.all fun char => char == '\n' || isPlainAscii char) || hasBlankEdge chars then .double
  else if chars.contains '\n' || hasMark chars || chars.head? == some ' ' ||
      chars.getLast? == some ' ' || Tag.ofPlain text != .str then .single
  else .plain

/-! ## Scalars -/

/-- Whether a run of spaces may be a line break instead. -/
def isFoldable (run : List Char) (column width : Nat) : Bool :=
  run == [' '] && width < column

/-- Maximal runs of spaces, of line feeds, of single quotes and of other characters. -/
def runsOf (chars : List Char) : List (List Char) :=
  let kind := fun (char : Char) => if char = ' ' ∨ char = '\n' ∨ char = '\'' then char else 'a'
  chars.splitBy fun first second => kind first == kind second

def writePlain (room : Room) : List (List Char) → List Char
  | [] => []
  | run :: rest =>
    if isFoldable run room.column room.width then
      newLine room.indent ++ writePlain { room with column := room.indent } rest
    else run ++ writePlain { room with column := room.column + run.length } rest

/-- Writes the runs of a text between single quotes. A quote is doubled, and so is a line feed,
since reading joins lines. Spaces at either end are kept. -/
def writeSingle (room : Room) (first : Bool) : List (List Char) → List Char
  | [] => []
  | run :: rest =>
    if startsWith (· == '\n') run then
      run ++ newLine room.indent ++ writeSingle { room with column := room.indent } false rest
    else if isFoldable run room.column room.width && !first && !rest.isEmpty then
      newLine room.indent ++ writeSingle { room with column := room.indent } false rest
    else
      let written := if startsWith (· == '\'') run then run ++ run else run
      written ++ writeSingle { room with column := room.column + written.length } false rest

/-- The letters of the one-letter escapes. -/
def escapeLetter? : Char → Option Char
  | '\x00' => some '0'
  | '\x07' => some 'a'
  | '\x08' => some 'b'
  | '\t' => some 't'
  | '\n' => some 'n'
  | '\x0b' => some 'v'
  | '\x0c' => some 'f'
  | '\r' => some 'r'
  | '\x1b' => some 'e'
  | '"' => some '"'
  | '\\' => some '\\'
  | '\x85' => some 'N'
  | '\xa0' => some '_'
  | '\u2028' => some 'L'
  | '\u2029' => some 'P'
  | _ => none

/-- Upper-case hexadecimal digits of a number, padded with zeros to `width`. -/
def upperHex (width value : Nat) : List Char :=
  let digits := (Nat.toDigits 16 value).map Char.toUpper
  List.replicate (width - digits.length) '0' ++ digits

/-- The escape of a character between double quotes, if it needs one. -/
def escape? (char : Char) : Option (List Char) :=
  match escapeLetter? char with
  | some letter => some ['\\', letter]
  | none =>
    if isPlainAscii char then none
    else if char.toNat < 0x100 then some ('\\' :: 'x' :: upperHex 2 char.toNat)
    else if char.toNat < 0x10000 then some ('\\' :: 'u' :: upperHex 4 char.toNat)
    else some ('\\' :: 'U' :: upperHex 8 char.toNat)

/-- Breaks a line between double quotes; a space that comes next is kept by an escape. -/
def breakDouble (room : Room) (next : List Char) : List Char × Room :=
  let mark := if startsWith (· == ' ') next then ['\\'] else []
  ('\\' :: newLine room.indent ++ mark, { room with column := room.indent + mark.length })

/-- Writes a text between double quotes. `pending` holds characters that are not yet written, last
first, and `first` tells whether the text begins here. Lines are broken before a space, and after or
before an escape. -/
def writeDouble (room : Room) (first : Bool) (pending : List Char) : List Char → List Char
  | [] => pending.reverse
  | char :: rest =>
    let inside := !first && !rest.isEmpty
    match escape? char with
    | some escape =>
      let written := pending.reverse ++ escape
      let room := { room with column := room.column + written.length }
      if inside && room.width + 1 < room.column then
        let (lineBreak, room) := breakDouble room rest
        written ++ lineBreak ++ writeDouble room false [] rest
      else written ++ writeDouble room false [] rest
    | none =>
      if inside && (char == ' ' || pending.isEmpty) &&
          room.width < room.column + pending.length then
        let (lineBreak, room) := breakDouble room (char :: rest)
        pending.reverse ++ lineBreak ++ writeDouble room false [char] rest
      else writeDouble room false (char :: pending) rest

def writeText (room : Room) (text : String) : List Char :=
  let inner := { room with column := room.column + 1 }
  match styleOf text with
  | .plain => writePlain room (runsOf text.toList)
  | .single => '\'' :: writeSingle inner true (runsOf text.toList) ++ ['\'']
  | .double => '"' :: writeDouble inner true [] text.toList ++ ['"']

/-- Writes a value that is no collection. Values of kinds that no form of plain scalars stands for
are written as the texts that messages show. -/
def writeScalar (room : Room) : Datum → List Char
  | .null => "null".toList
  | .flag value => (if value then "true" else "false").toList
  | .whole value => (toString value).toList
  | .text value => writeText room value
  | value => writeText room value.show

/-! ## Blocks -/

def lineWidth : Nat :=
  80

/-- A key: never broken. -/
def writeKey (key : Datum) : List Char :=
  writeScalar ⟨0, 1024 * 1024, 0⟩ key

/-- The room of a scalar in a block that is indented by `indent`. -/
def roomAt (indent column : Nat) : Room :=
  ⟨column, lineWidth, indent + 2⟩

mutual

/-- Writes the value after the colon of a key. `column` is the place after the colon. -/
def writeAfterKey (indent column : Nat) : Datum → List Char
  | .mapping [] => [' ', '{', '}']
  | .mapping entries => newLine (indent + 2) ++ writeEntries (indent + 2) entries
  | .list [] | .tuple [] | .set [] => [' ', '[', ']']
  | .list items => newLine indent ++ writeItems indent items
  | .tuple items => newLine indent ++ writeItems indent items
  | .set items => newLine indent ++ writeItems indent items
  | value => ' ' :: writeScalar (roomAt indent (column + 1)) value

def writeEntries (indent : Nat) : List (Datum × Datum) → List Char
  | [] => []
  | [(key, value)] =>
    let start := writeKey key ++ [':']
    start ++ writeAfterKey indent (indent + start.length) value
  | (key, value) :: rest =>
    let start := writeKey key ++ [':']
    start ++ writeAfterKey indent (indent + start.length) value ++ newLine indent ++
      writeEntries indent rest

def writeItem (indent : Nat) : Datum → List Char
  | .mapping [] => ['{', '}']
  | .mapping entries => writeEntries (indent + 2) entries
  | .list [] | .tuple [] | .set [] => ['[', ']']
  | .list items => writeItems (indent + 2) items
  | .tuple items => writeItems (indent + 2) items
  | .set items => writeItems (indent + 2) items
  | value => writeScalar (roomAt indent (indent + 2)) value

def writeItems (indent : Nat) : List Datum → List Char
  | [] => []
  | [item] => '-' :: ' ' :: writeItem indent item
  | item :: rest => '-' :: ' ' :: writeItem indent item ++ newLine indent ++ writeItems indent rest

end

def render (document : Datum) : String :=
  let written := match document with
    | .mapping (entry :: rest) => writeEntries 0 (entry :: rest)
    | .list (item :: rest) => writeItems 0 (item :: rest)
    | value => writeItem 0 value
  String.ofList (written ++ ['\n'])

end Fieldwise.Yaml
