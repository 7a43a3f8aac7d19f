import Fieldwise.Text.Blank
import Fieldwise.Text.Digit

/-! # Whole numbers in text

A whole number is written with an optional sign and decimal digits of any script; single underscores
may stand between digits and blanks around the whole, but no information separators. Texts of more
than 4300 digits are refused. -/

namespace Fieldwise

/-- The most digits a whole number may be written with. -/
def mostDigits : Nat := 4300

/-- The text that refuses a whole number for its length. -/
def longNumberMessage (digits : Nat) : String :=
  "Exceeds the limit (" ++ toString mostDigits ++
    " digits) for integer string conversion: value has " ++ toString digits ++
    " digits; use sys.set_int_max_str_digits() to increase the limit"

/-- The text that refuses to write a whole number for its length. -/
def unwritableNumberMessage : String :=
  "Exceeds the limit (" ++ toString mostDigits ++ " digits) for integer string conversion; " ++
    "use sys.set_int_max_str_digits() to increase the limit"

def isDecimal (char : Char) : Bool :=
  '0' ≤ char && char ≤ '9'

/-- The number that ASCII digits write. -/
def decimalValue (digits : List Char) : Nat :=
  digits.foldl (fun value digit => 10 * value + (digit.toNat - '0'.toNat)) 0

/-- A blank that may stand around a number: the information separators may not. -/
def isNumberBlank (char : Char) : Bool :=
  Text.isBlank char && !Text.isSeparator char

/-- Drops blanks at both ends of what should be a number. -/
def stripNumber (chars : List Char) : List Char :=
  ((chars.dropWhile isNumberBlank).reverse.dropWhile isNumberBlank).reverse

/-- Reads digits with single underscores between them. `afterDigit` tells whether an underscore may
come next; the result holds the value and the number of digits. -/
def readDigits (afterDigit : Bool) (value count : Nat) : List Char → Option (Nat × Nat)
  | [] => if afterDigit then some (value, count) else none
  | '_' :: rest => if afterDigit then readDigits false value count rest else none
  | char :: rest =>
    match Text.digitValue? char with
    | some digit => readDigits true (10 * value + digit) (count + 1) rest
    | none => none

/-- Reads a whole number of a text, blanks around it ignored. -/
def readWhole? (text : String) : Option Int :=
  let unsigned := fun (negative : Bool) (chars : List Char) =>
    match readDigits false 0 0 chars with
    | some (value, count) =>
      if mostDigits < count then none
      else some (if negative then -(value : Int) else (value : Int))
    | none => none
  match stripNumber text.toList with
  | '-' :: rest => unsigned true rest
  | '+' :: rest => unsigned false rest
  | chars => unsigned false chars

end Fieldwise
