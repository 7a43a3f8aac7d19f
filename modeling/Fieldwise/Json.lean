import Fieldwise.Datum
import Fieldwise.Number.Whole

/-! # JSON documents

Reading follows the JSON grammar, widened by `NaN`, `Infinity` and `-Infinity`. The first fault is
reported with its line, its column and its offset, all counted in code points. Texts hold characters
only: half of a surrogate pair that stands alone is refused, after all other faults. -/

namespace Fieldwise.Json

inductive Cause where
  | value
  | propertyName
  | colon
  | comma
  | unterminated
  | controlCharacter
  | escape
  | unicodeEscape
  | extraData
  | byteOrderMark
  | loneHalf
  deriving DecidableEq, Repr

def Cause.message : Cause → String
  | value => "Expecting value"
  | propertyName => "Expecting property name enclosed in double quotes"
  | colon => "Expecting ':' delimiter"
  | comma => "Expecting ',' delimiter"
  | unterminated => "Unterminated string starting at"
  | controlCharacter => "Invalid control character at"
  | escape => "Invalid \\escape"
  | unicodeEscape => "Invalid \\uXXXX escape"
  | extraData => "Extra data"
  | byteOrderMark => "Unexpected UTF-8 BOM (decode using utf-8-sig)"
  | loneHalf => "Unpaired surrogate"

/-- Why a document cannot be read: what is wrong and where, a number with too many digits, or nesting
so deep that the call stack is exhausted. -/
inductive Error where
  | fault (cause : Cause) (line column offset : Nat)
  | longNumber (digits : Nat)
  | exhausted (message : String)
  deriving DecidableEq, Repr

/-- An error while reading, placed by the number of characters that were left. -/
inductive ReadError where
  | fault (cause : Cause) (left : Nat)
  | longNumber (digits : Nat)

/-- The fault at the front of the rest of the text. -/
def fault {α : Type} (cause : Cause) (rest : List Char) : Except ReadError (α × List Char) :=
  .error (.fault cause rest.length)

/-- The blanks of JSON. -/
def isBlank (char : Char) : Bool :=
  char == ' ' || char == '\t' || char == '\n' || char == '\r'

def skipBlanks (chars : List Char) : List Char :=
  chars.dropWhile isBlank

/-- The characters denoted by the one-letter escapes. -/
def letterEscape? : Char → Option Char
  | '"' => some '"'
  | '\\' => some '\\'
  | '/' => some '/'
  | 'b' => some '\x08'
  | 'f' => some '\x0c'
  | 'n' => some '\n'
  | 'r' => some '\r'
  | 't' => some '\t'
  | _ => none

/-- Four hexadecimal digits that are followed by something. -/
def fourDigits? : List Char → Option (Nat × List Char)
  | first :: second :: third :: fourth :: next :: rest => do
    let _ ← Text.hexDigitValue? first
    let _ ← Text.hexDigitValue? second
    let _ ← Text.hexDigitValue? third
    let _ ← Text.hexDigitValue? fourth
    return (Text.hexValue [first, second, third, fourth], next :: rest)
  | _ => none

/-- The lower half of a surrogate pair, if the text goes on with its escape. -/
def lowerHalf? : List Char → Option (Nat × List Char)
  | '\\' :: 'u' :: rest => do
    let (code, rest) ← fourDigits? rest
    if 0xdc00 ≤ code ∧ code < 0xe000 then return (code, rest) else failure
  | _ => none

/-- The character of an escape by code point; two halves of a pair make one character. A half that
stands alone is read as `half`, if that is given. -/
def joinHalves? (half : Option Char) (code : Nat) (rest : List Char) : Option (Char × List Char) :=
  if 0xd800 ≤ code ∧ code < 0xdc00 then
    match lowerHalf? rest with
    | some (low, rest) =>
      some (Char.ofNat (0x10000 + (code - 0xd800) * 0x400 + (low - 0xdc00)), rest)
    | none => half.map fun char => (char, rest)
  else if 0xdc00 ≤ code ∧ code < 0xe000 then half.map fun char => (char, rest)
  else some (Char.ofNat code, rest)

/-- Reads the inside of a string; `opened` is how much text was left at its opening quote. -/
def readString (half : Option Char) (opened : Nat) :
    Nat → List Char → Except ReadError (List Char × List Char)
  | 0, _ => .error (.fault .unterminated opened)
  | _ + 1, [] => .error (.fault .unterminated opened)
  | _ + 1, '"' :: rest => .ok ([], rest)
  | _ + 1, ['\\'] => .error (.fault .unterminated opened)
  | fuel + 1, '\\' :: 'u' :: rest =>
    match fourDigits? rest with
    | none => fault .unicodeEscape ('u' :: rest)
    | some (code, after) =>
      match joinHalves? half code after with
      | none => fault .loneHalf ('\\' :: 'u' :: rest)
      | some (char, rest) => do
        let (chars, rest) ← readString half opened fuel rest
        return (char :: chars, rest)
  | fuel + 1, '\\' :: letter :: rest =>
    match letterEscape? letter with
    | none => fault .escape ('\\' :: letter :: rest)
    | some char => do
      let (chars, rest) ← readString half opened fuel rest
      return (char :: chars, rest)
  | fuel + 1, char :: rest =>
    if char.toNat < 0x20 then fault .controlCharacter (char :: rest)
    else do
      let (chars, rest) ← readString half opened fuel rest
      return (char :: chars, rest)

/-- A fraction, if a point and a digit follow. -/
def takeFraction : List Char → List Char × List Char
  | '.' :: rest =>
    if (rest.head?.map isDecimal).getD false then
      (rest.takeWhile isDecimal, rest.dropWhile isDecimal)
    else ([], '.' :: rest)
  | rest => ([], rest)

/-- A signed exponent, if a complete one follows. -/
def takeExponent (chars : List Char) : Option Int × List Char :=
  match chars with
  | mark :: rest =>
    if mark == 'e' || mark == 'E' then
      let (negative, rest) := match rest with
        | '-' :: rest => (true, rest)
        | '+' :: rest => (false, rest)
        | rest => (false, rest)
      let digits := rest.takeWhile isDecimal
      if digits.isEmpty then (none, chars)
      else
        let size : Int := decimalValue digits
        (some (if negative then -size else size), rest.dropWhile isDecimal)
    else (none, chars)
  | [] => (none, chars)

/-- The digits before the point: a zero stands alone. -/
def takeWhole : List Char → List Char × List Char
  | '0' :: rest => (['0'], rest)
  | chars => (chars.takeWhile isDecimal, chars.dropWhile isDecimal)

/-- Reads a number. What cannot belong to it is left for the caller. -/
def readNumber (chars : List Char) : Except ReadError (Datum × List Char) :=
  let (negative, unsigned) := match chars with
    | '-' :: rest => (true, rest)
    | rest => (false, rest)
  let (whole, rest) := takeWhole unsigned
  if whole.isEmpty then fault .value chars
  else
    let (fraction, rest) := takeFraction rest
    let (exponent, rest) := takeExponent rest
    if fraction.isEmpty && exponent.isNone then
      if mostDigits < whole.length then .error (.longNumber whole.length)
      else
        let value : Int := decimalValue whole
        .ok (.whole (if negative then -value else value), rest)
    else
      let power := exponent.getD 0 - fraction.length
      .ok (.real (Binary64.ofDecimal negative (decimalValue (whole ++ fraction)) power), rest)

/-- The rest of a text after an expected word. -/
def afterWord? (word : String) (chars : List Char) : Option (List Char) :=
  if word.toList.isPrefixOf chars then some (chars.drop word.length) else none

def constants : List (String × Datum) :=
  [("null", .null), ("true", .flag true), ("false", .flag false), ("NaN", .real .nan),
    ("Infinity", .real (.infinite false)), ("-Infinity", .real (.infinite true))]

def readScalar (chars : List Char) : Except ReadError (Datum × List Char) :=
  match constants.findSome? fun (word, value) =>
    (afterWord? word chars).map fun rest => (value, rest)
    with
  | some found => .ok found
  | none => readNumber chars

mutual

def readValue (half : Option Char) : Nat → List Char → Except ReadError (Datum × List Char)
  | 0, chars => fault .value chars
  | fuel + 1, chars =>
    match chars with
    | '"' :: rest => do
      let (inner, rest) ← readString half chars.length (rest.length + 1) rest
      return (.text (String.ofList inner), rest)
    | '{' :: rest =>
      match skipBlanks rest with
      | '}' :: rest => .ok (.mapping [], rest)
      | rest => readMembers half fuel [] rest
    | '[' :: rest =>
      match skipBlanks rest with
      | ']' :: rest => .ok (.list [], rest)
      | rest => readItems half fuel [] rest
    | _ => readScalar chars

/-- Reads the members of an object up to its closing brace; `done` holds those before. -/
def readMembers (half : Option Char) :
    Nat → List (Datum × Datum) → List Char → Except ReadError (Datum × List Char)
  | 0, _, chars => fault .value chars
  | fuel + 1, done, chars =>
    match chars with
    | '"' :: rest => do
      let (key, rest) ← readString half chars.length (rest.length + 1) rest
      match skipBlanks rest with
      | ':' :: rest =>
        let (value, rest) ← readValue half fuel (skipBlanks rest)
        let done := Datum.put (.text (String.ofList key)) value done
        match skipBlanks rest with
        | '}' :: rest => return (.mapping done, rest)
        | ',' :: rest => readMembers half fuel done (skipBlanks rest)
        | rest => fault .comma rest
      | rest => fault .colon rest
    | _ => fault .propertyName chars

/-- Reads the items of an array up to its closing bracket; `done` holds those before, last first. -/
def readItems (half : Option Char) :
    Nat → List Datum → List Char → Except ReadError (Datum × List Char)
  | 0, _, chars => fault .value chars
  | fuel + 1, done, chars => do
    let (item, rest) ← readValue half fuel chars
    match skipBlanks rest with
    | ']' :: rest => return (.list (item :: done).reverse, rest)
    | ',' :: rest => readItems half fuel (item :: done) (skipBlanks rest)
    | rest => fault .comma rest

end

/-- Places a fault by line, column and offset. -/
def ReadError.locate (chars : List Char) : ReadError → Error
  | .longNumber digits => .longNumber digits
  | .fault cause left =>
    let offset := chars.length - left
    let before := chars.take offset
    .fault cause (before.count '\n' + 1) ((before.reverse.takeWhile (· != '\n')).length + 1) offset

/-- Reads a document: one value with blanks around it. -/
def readChars (half : Option Char) (chars : List Char) : Except ReadError (Datum × List Char) :=
  if chars.head? = some '\ufeff' then fault .byteOrderMark chars
  else do
    let (value, rest) ← readValue half (chars.length + 1) (skipBlanks chars)
    match skipBlanks rest with
    | [] => return (value, [])
    | rest => fault .extraData rest

/-- Reads a document in which halves that stand alone are read as `half`, if that is given. -/
def readWith (half : Option Char) (text : String) : Except Error Datum :=
  match readChars half text.toList with
  | .ok (value, _) => .ok value
  | .error error => .error (error.locate text.toList)

def read (text : String) : Except Error Datum := do
  -- With anything in the place of lone halves, all other faults are found.
  let _ ← readWith (some '\ufffd') text
  readWith none text

def Error.message : Error → String
  | .fault cause line column offset =>
    cause.message ++ ": line " ++ toString line ++ " column " ++ toString column ++
      " (char " ++ toString offset ++ ")"
  | .longNumber digits => longNumberMessage digits
  | .exhausted message => message

end Fieldwise.Json
