import Fieldwise.Text.Printable

/-! # Quoted text

A text is shown between quotes so that its ends and its invisible characters can be seen: single
quotes, unless the text holds a single quote and no double one. Characters that do not print are
written as escapes with hexadecimal code points. -/

namespace Fieldwise.Text

/-- Lower-case hexadecimal digits of a number, padded with zeros to `width`. -/
def hexText (width value : Nat) : List Char :=
  let digits := Nat.toDigits 16 value
  List.replicate (width - digits.length) '0' ++ digits

/-- The escape of a character by its code point, in the shortest of the three fixed widths. -/
def codeEscape (char : Char) : List Char :=
  if char.toNat < 0x100 then '\\' :: 'x' :: hexText 2 char.toNat
  else if char.toNat < 0x10000 then '\\' :: 'u' :: hexText 4 char.toNat
  else '\\' :: 'U' :: hexText 8 char.toNat

/-- How one character stands inside a quoted text with the given quote mark. -/
def quotedChar (mark char : Char) : List Char :=
  if char = mark ∨ char = '\\' then ['\\', char]
  else if char = '\n' then ['\\', 'n']
  else if char = '\r' then ['\\', 'r']
  else if char = '\t' then ['\\', 't']
  else if isPrintable char then [char]
  else codeEscape char

/-- The quote mark for a text: the single one, unless only the double one needs no escape. -/
def quoteMark (chars : List Char) : Char :=
  if chars.contains '\'' && !chars.contains '"' then '"' else '\''

def quoted (text : String) : String :=
  let mark := quoteMark text.toList
  String.ofList (mark :: text.toList.flatMap (quotedChar mark) ++ [mark])

/-- The character of a code point; half of a surrogate pair is none. -/
def charOfCode? (code : Nat) : Option Char :=
  if code.isValidChar then some (Char.ofNat code) else none

/-- How one code point stands in a text of which `shown` says how characters stand there; half of a
surrogate pair is escaped. -/
def shownCode (shown : Char → List Char) (code : Nat) : List Char :=
  match charOfCode? code with
  | some char => shown char
  | none => '\\' :: 'u' :: hexText 4 code

def quotedCodes (codes : List Nat) : String :=
  let mark := quoteMark (codes.filterMap charOfCode?)
  String.ofList (mark :: codes.flatMap (shownCode (quotedChar mark)) ++ [mark])

/-- How one byte stands inside quotes: ASCII text as in `quotedChar`, all else by its number. -/
def quotedByte (mark : Char) (byte : UInt8) : List Char :=
  if 0x20 ≤ byte ∧ byte < 0x7f then
    let char := Char.ofNat byte.toNat
    if char = mark ∨ char = '\\' then ['\\', char] else [char]
  else if byte = 9 then ['\\', 't']
  else if byte = 10 then ['\\', 'n']
  else if byte = 13 then ['\\', 'r']
  else '\\' :: 'x' :: hexText 2 byte.toNat

/-- Bytes between quotes, marked with `b`. -/
def quotedBytes (bytes : List UInt8) : String :=
  let mark := if bytes.contains 0x27 && !bytes.contains 0x22 then '"' else '\''
  String.ofList ('b' :: mark :: bytes.flatMap (quotedByte mark) ++ [mark])

end Fieldwise.Text
