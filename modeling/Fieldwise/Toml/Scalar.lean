import Fieldwise.Calendar

/-! # TOML scalars

The smallest parts of a TOML document: blanks and comments, the four kinds of strings, the parts of
keys, numbers, and dates and times. Every reader takes the rest of a text and gives back a value and
what follows it. -/

namespace Fieldwise.Toml

/-- Why a text is no document: it breaks a rule, or a number has too many digits. -/
inductive Error where
  | malformed
  | longNumber (digits : Nat)
  deriving DecidableEq, Repr

/-- A blank within a line. -/
def isBlank (char : Char) : Bool :=
  char == ' ' || char == '\t'

def skipBlanks (chars : List Char) : List Char :=
  chars.dropWhile isBlank

/-- A character that neither comments nor strings of one line may hold. -/
def isControl (char : Char) : Bool :=
  (char < ' ' && char != '\t') || char == '\x7f'

/-- A character that a string may not hold; strings of several lines may hold line ends. -/
def isIllegal (lines : Bool) (char : Char) : Bool :=
  isControl char && !(lines && char == '\n')

/-- Skips a comment, if one starts here, up to the end of its line. -/
def skipComment : List Char → Except Error (List Char)
  | '#' :: rest =>
    if (rest.takeWhile (· != '\n')).any isControl then .error .malformed
    else .ok (rest.dropWhile (· != '\n'))
  | chars => .ok chars

/-- Skips blanks, line ends and comments. -/
def skipLines : Nat → List Char → Except Error (List Char)
  | 0, chars => .ok chars
  | fuel + 1, chars =>
    match chars.dropWhile fun char => isBlank char || char == '\n' with
    | '#' :: rest => do skipLines fuel (← skipComment ('#' :: rest))
    | rest => .ok rest

/-! ## Strings -/

/-- The characters denoted by the one-letter escapes. -/
def letterEscape? : Char → Option Char
  | 'b' => some '\x08'
  | 't' => some '\t'
  | 'n' => some '\n'
  | 'f' => some '\x0c'
  | 'r' => some '\r'
  | '"' => some '"'
  | '\\' => some '\\'
  | _ => none

/-- The character of a hexadecimal code point with a fixed number of digits. -/
def readCode (width : Nat) (chars : List Char) : Except Error (List Char × List Char) :=
  let digits := chars.take width
  let code := Text.hexValue digits
  if digits.length = width ∧ digits.all (fun char => (Text.hexDigitValue? char).isSome) ∧
      code.isValidChar then
    .ok ([Char.ofNat code], chars.drop width)
  else .error .malformed

/-- Skips the blank end of a line and all blanks and line ends after it. -/
def skipLineEnd (chars : List Char) : Except Error (List Char × List Char) :=
  match skipBlanks chars with
  | [] => .ok ([], [])
  | '\n' :: rest => .ok ([], rest.dropWhile fun char => isBlank char || char == '\n')
  | _ => .error .malformed

/-- Reads an escape after its backslash. In a string of several lines it may stand for the end of a
line and the blanks around it. -/
def readEscape (lines : Bool) : List Char → Except Error (List Char × List Char)
  | 'u' :: rest => readCode 4 rest
  | 'U' :: rest => readCode 8 rest
  | char :: rest =>
    if lines ∧ (isBlank char ∨ char = '\n') then skipLineEnd (char :: rest)
    else
      match letterEscape? char with
      | some meant => .ok ([meant], rest)
      | none => .error .malformed
  | [] => .error .malformed

/-- Reads the inside of a string with escapes up to its closing quotes. -/
def readBasic (lines : Bool) : Nat → List Char → Except Error (List Char × List Char)
  | 0, _ => .error .malformed
  | fuel + 1, chars =>
    match chars with
    | [] => .error .malformed
    | '"' :: rest =>
      if lines then
        match rest with
        | '"' :: '"' :: rest => .ok ([], rest)
        | rest => do
          let (inner, rest) ← readBasic lines fuel rest
          return ('"' :: inner, rest)
      else .ok ([], rest)
    | '\\' :: rest => do
      let (meant, rest) ← readEscape lines rest
      let (inner, rest) ← readBasic lines fuel rest
      return (meant ++ inner, rest)
    | char :: rest =>
      if isIllegal lines char then .error .malformed
      else do
        let (inner, rest) ← readBasic lines fuel rest
        return (char :: inner, rest)

/-- Reads the inside of a string without escapes up to its closing quotes. -/
def readLiteral (lines : Bool) : List Char → Except Error (List Char × List Char)
  | [] => .error .malformed
  | '\'' :: rest =>
    if lines then
      match rest with
      | '\'' :: '\'' :: rest => .ok ([], rest)
      | rest => do
        let (inner, rest) ← readLiteral lines rest
        return ('\'' :: inner, rest)
    else .ok ([], rest)
  | char :: rest =>
    if isIllegal lines char then .error .malformed
    else do
      let (inner, rest) ← readLiteral lines rest
      return (char :: inner, rest)

/-- Up to two quotes that stand directly before the closing ones belong to a string of several
lines. -/
def takeExtraQuotes (quote : Char) (inner rest : List Char) : List Char × List Char :=
  let extra := (rest.take 2).takeWhile (· == quote)
  (inner ++ extra, rest.drop extra.length)

/-- Drops the line end that follows opening quotes directly. -/
def dropFirstLineEnd : List Char → List Char
  | '\n' :: rest => rest
  | chars => chars

/-- Reads a string of one line, if one starts here. -/
def readLineString? : List Char → Option (Except Error (List Char × List Char))
  | '"' :: rest => some (readBasic false (rest.length + 1) rest)
  | '\'' :: rest => some (readLiteral false rest)
  | _ => none

/-- Reads a string of any kind, if one starts here. -/
def readString? : List Char → Option (Except Error (List Char × List Char))
  | '"' :: '"' :: '"' :: rest => some do
    let (inner, rest) ← readBasic true (rest.length + 1) (dropFirstLineEnd rest)
    return takeExtraQuotes '"' inner rest
  | '\'' :: '\'' :: '\'' :: rest => some do
    let (inner, rest) ← readLiteral true (dropFirstLineEnd rest)
    return takeExtraQuotes '\'' inner rest
  | chars => readLineString? chars

/-! ## Keys -/

/-- A key: the names on the way to a value. -/
abbrev Key := List String

def isBareKeyChar (char : Char) : Bool :=
  char.isAlphanum || char == '-' || char == '_'

def readKeyPart (chars : List Char) : Except Error (String × List Char) := do
  match readLineString? chars with
  | some quoted => do
    let (inner, rest) ← quoted
    return (String.ofList inner, rest)
  | none =>
    match chars.takeWhile isBareKeyChar with
    | [] => throw .malformed
    | name => return (String.ofList name, chars.dropWhile isBareKeyChar)

/-- Reads a key: names with points between them. -/
def readKey : Nat → List Char → Except Error (Key × List Char)
  | 0, _ => .error .malformed
  | fuel + 1, chars => do
    let (first, rest) ← readKeyPart chars
    match skipBlanks rest with
    | '.' :: rest => do
      let (others, rest) ← readKey fuel (skipBlanks rest)
      return (first :: others, rest)
    | rest => return ([first], rest)

/-! ## Numbers -/

/-- Digits with single underscores between them, given that the text starts with a digit; the
underscores are left out. -/
def takeDigits (test : Char → Bool) : List Char → List Char × List Char
  | '_' :: char :: rest =>
    if test char then
      let (digits, rest) := takeDigits test rest
      (char :: digits, rest)
    else ([], '_' :: char :: rest)
  | char :: rest =>
    if test char then
      let (digits, rest) := takeDigits test rest
      (char :: digits, rest)
    else ([], char :: rest)
  | [] => ([], [])

def digitsAfter? (test : Char → Bool) (chars : List Char) : Option (List Char × List Char) :=
  match chars with
  | char :: _ => if test char then some (takeDigits test chars) else none
  | [] => none

/-- The bases other than ten: the letter that announces one, its digits and its size. -/
def baseDigits? : Char → Option ((Char → Bool) × Nat)
  | 'x' => some (fun char => (Text.hexDigitValue? char).isSome, 16)
  | 'o' => some (fun char => '0' ≤ char && char ≤ '7', 8)
  | 'b' => some (fun char => char == '0' || char == '1', 2)
  | _ => none

/-- A whole number in another base than ten. -/
def basedNumber? : List Char → Option (Datum × List Char)
  | '0' :: letter :: rest => do
    let (test, base) ← baseDigits? letter
    let (digits, rest) ← digitsAfter? test rest
    return (.whole (digits.foldl
      (fun (value : Nat) digit => base * value + (Text.hexDigitValue? digit).getD 0) 0 : Nat), rest)
  | _ => none

/-- A sign, if one stands here, and whether it is a minus. -/
def takeSign : List Char → Bool × List Char
  | '-' :: rest => (true, rest)
  | '+' :: rest => (false, rest)
  | rest => (false, rest)

/-- The digits of a fraction, if a point and a digit follow. -/
def takeFraction (chars : List Char) : Option (List Char) × List Char :=
  match chars with
  | '.' :: rest =>
    match digitsAfter? isDecimal rest with
    | some (digits, rest) => (some digits, rest)
    | none => (none, chars)
  | _ => (none, chars)

/-- An exponent, if a complete one follows. -/
def takeExponent (chars : List Char) : Option Int × List Char :=
  match chars with
  | mark :: rest =>
    if mark = 'e' ∨ mark = 'E' then
      let (negative, rest) := takeSign rest
      match digitsAfter? isDecimal rest with
      | some (digits, rest) =>
        let size : Int := decimalValue digits
        (some (if negative then -size else size), rest)
      | none => (none, chars)
    else (none, chars)
  | [] => (none, chars)

/-- The digits before the point: a zero stands alone. -/
def wholeDigits? : List Char → Option (List Char × List Char)
  | '0' :: rest => some (['0'], rest)
  | chars => digitsAfter? isDecimal chars

def decimalNumber? (chars : List Char) : Option (Except Error (Datum × List Char)) := do
  let (negative, unsigned) := takeSign chars
  let (whole, rest) ← wholeDigits? unsigned
  let (fraction, rest) := takeFraction rest
  let (exponent, rest) := takeExponent rest
  if fraction.isNone ∧ exponent.isNone then
    if mostDigits < whole.length then return .error (.longNumber whole.length)
    else
      let value : Int := decimalValue whole
      return .ok (.whole (if negative then -value else value), rest)
  else
    let digits := fraction.getD []
    return .ok (.real (Binary64.ofDecimal negative (decimalValue (whole ++ digits))
      (exponent.getD 0 - digits.length)), rest)

/-- The words for numbers that have no digits. -/
def specialNumbers : List (List Char × Binary64) :=
  [("inf".toList, .infinite false), ("nan".toList, .nan), ("-inf".toList, .infinite true),
    ("+inf".toList, .infinite false), ("-nan".toList, .nan), ("+nan".toList, .nan)]

def specialNumber? (chars : List Char) : Option (Datum × List Char) :=
  specialNumbers.findSome? fun (word, value) =>
    if word.isPrefixOf chars then some (.real value, chars.drop word.length) else none

/-! ## Dates and times -/

/-- A number of a fixed count of digits within bounds. -/
def fixedNumber? (count least most : Nat) (chars : List Char) : Option (Nat × List Char) :=
  let digits := chars.take count
  let value := decimalValue digits
  if digits.length = count ∧ digits.all isDecimal ∧ least ≤ value ∧ value ≤ most then
    some (value, chars.drop count)
  else none

/-- The rest of a text after an expected character. -/
def after? (mark : Char) : List Char → Option (List Char)
  | char :: rest => if char = mark then some rest else none
  | [] => none

def day? (chars : List Char) : Option (Day × List Char) := do
  let (year, rest) ← fixedNumber? 4 0 9999 chars
  let (month, rest) ← fixedNumber? 2 1 12 (← after? '-' rest)
  let (day, rest) ← fixedNumber? 2 1 31 (← after? '-' rest)
  return (⟨year, month, day⟩, rest)

def takeMicroseconds (chars : List Char) : Nat × List Char :=
  match chars with
  | '.' :: rest =>
    match rest.takeWhile isDecimal with
    | [] => (0, chars)
    | digits => (microseconds digits, rest.dropWhile isDecimal)
  | _ => (0, chars)

def clock? (chars : List Char) : Option (Clock × List Char) := do
  let (hour, rest) ← fixedNumber? 2 0 23 chars
  let (minute, rest) ← fixedNumber? 2 0 59 (← after? ':' rest)
  let (second, rest) ← fixedNumber? 2 0 59 (← after? ':' rest)
  let (fraction, rest) := takeMicroseconds rest
  return (⟨hour, minute, second, fraction⟩, rest)

/-- The distance from UTC, if one follows. -/
def offset? : List Char → Option (Zone × List Char)
  | mark :: rest => do
    if mark = 'Z' ∨ mark = 'z' then return (.utc, rest)
    else if mark = '+' ∨ mark = '-' then
      let (hours, rest) ← fixedNumber? 2 0 23 rest
      let (minutes, rest) ← fixedNumber? 2 0 59 (← after? ':' rest)
      let seconds : Int := (hours * 60 + minutes) * 60
      return (.offset (if mark = '-' then -seconds else seconds), rest)
    else none
  | [] => none

/-- The time that follows a day, if one does. -/
def clockAfterDay? : List Char → Option (Clock × List Char)
  | mark :: rest => if mark = 'T' ∨ mark = 't' ∨ mark = ' ' then clock? rest else none
  | [] => none

/-- A day with or without a time, or a time alone, if one starts here. -/
def time? (chars : List Char) : Option (Except Error (Datum × List Char)) :=
  match day? chars with
  | none => (clock? chars).map fun (clock, rest) => .ok (.clock clock, rest)
  | some (day, rest) =>
    if day.fault?.isSome then some (.error .malformed)
    else
      match clockAfterDay? rest with
      | none => some (.ok (.day day, rest))
      | some (clock, rest) =>
        let (zone, rest) := (offset? rest).getD (.none, rest)
        some (.ok (.moment ⟨day, clock, zone⟩, rest))

end Fieldwise.Toml
