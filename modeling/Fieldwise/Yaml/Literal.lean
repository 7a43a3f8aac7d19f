import Fieldwise.Number.Arithmetic
import Fieldwise.Number.Whole
import Fieldwise.Text.Base64
import Fieldwise.Text.Digit
import Fieldwise.Text.Lowercase
import Fieldwise.Yaml.Tag
import Fieldwise.Yaml.Token

/-! # YAML literals

The values of scalars by their tags. A scalar that was recognised by its form has a value unless it
denotes a day or a time that does not exist, or a number that is too long or has no digit behind the
announcement of its base; one that is tagged by hand may have none. -/

namespace Fieldwise.Yaml

def Error.message : Error → String
  | malformed => "the text is no YAML document"
  | codePoint => "chr() arg not in range(0x110000)"
  | hugeCodePoint => "Python int too large to convert to C int"
  | hugeWeight => "int too large to convert to float"
  | unknownFlag word => word
  | emptyNumber => "string index out of range"
  | notWhole base text =>
    "invalid literal for int() with base " ++ toString base ++ ": " ++
      String.ofList ((Text.quoted text).toList.take 200)
  | longNumber digits => longNumberMessage digits
  | notReal text => "could not convert string to float: " ++ Text.quoted text
  | notTime => "'NoneType' object has no attribute 'groupdict'"
  | calendar fault => fault.message
  | unwritable => unwritableNumberMessage
  | exhausted message => message

def readFlag (text : String) : Except Error Datum :=
  let word := Text.lowercase text
  if word ∈ ["yes", "true", "on"] then .ok (.flag true)
  else if word ∈ ["no", "false", "off"] then .ok (.flag false)
  else .error (.unknownFlag word)

/-! ## Numbers -/

/-- The value of a digit of a base up to sixteen; decimal digits of any script count. -/
def digitOf? (base : Nat) (char : Char) : Option Nat :=
  match (Text.digitValue? char).or (Text.hexDigitValue? char) with
  | some value => if value < base then some value else none
  | none => none

/-- The letter that may stand after a zero to announce a base. -/
def baseLetter? : Nat → Option Char
  | 2 => some 'b'
  | 8 => some 'o'
  | 16 => some 'x'
  | _ => none

/-- Drops the announcement of a base, if there is one and something follows it. -/
def dropBase (base : Nat) (chars : List Char) : List Char :=
  match chars with
  | '0' :: letter :: next :: rest =>
    if baseLetter? base = some letter.toLower then next :: rest else chars
  | _ => chars

/-- A whole number of a base, with blanks around it and a sign. -/
def readInBase (base : Nat) (text : List Char) : Except Error Int :=
  let refused := Error.notWhole base (String.ofList text)
  let stripped := stripNumber text
  let digits := dropBase base (dropSign stripped)
  if digits.isEmpty then .error refused
  else
    match digits.mapM (digitOf? base) with
    | none => .error refused
    | some values =>
      if base = 10 ∧ mostDigits < values.length then .error (.longNumber values.length)
      else
        let size := values.foldl (fun value digit => base * value + digit) 0
        let value : Int := size
        .ok (if stripped.head? = some '-' then -value else value)

/-- A scalar without underscores, as a sign and what follows it; nothing at all is no number. -/
def signed (text : List Char) : Except Error (Bool × List Char) :=
  match text.filter (· != '_') with
  | [] => .error .emptyNumber
  | '-' :: rest => .ok (true, rest)
  | '+' :: rest => .ok (false, rest)
  | rest => .ok (false, rest)

def readWhole (text : String) : Except Error Datum := do
  let (negative, digits) ← signed text.toList
  let value ← match digits with
    | [] => throw .emptyNumber
    | '0' :: 'b' :: rest => readInBase 2 rest
    | '0' :: 'x' :: rest => readInBase 16 rest
    | ['0'] => pure 0
    | '0' :: _ => readInBase 8 digits
    | _ => do
      if digits.contains ':' then
        let parts ← (Text.pieces ':' digits).mapM (readInBase 10)
        pure (parts.foldl (fun value part => 60 * value + part) 0)
      else readInBase 10 digits
  return .whole (if negative then -value else value)

/-- Decimal digits as ASCII digits; other characters stay. -/
def plainDigits (chars : List Char) : List Char :=
  chars.map fun char =>
    match Text.digitValue? char with
    | some value => Char.ofNat ('0'.toNat + value)
    | none => char

/-- A number with or without a fraction and an exponent. -/
def decimalReal? (negative : Bool) (chars : List Char) : Option Binary64 := do
  let whole := chars.takeWhile isDecimal
  let rest := chars.dropWhile isDecimal
  let (fraction, rest) := match rest with
    | '.' :: rest => (rest.takeWhile isDecimal, rest.dropWhile isDecimal)
    | rest => ([], rest)
  if whole.isEmpty ∧ fraction.isEmpty then none
  let exponent : Int ← match rest with
    | [] => some 0
    | mark :: rest =>
      let digits := dropSign rest
      if (mark = 'e' ∨ mark = 'E') ∧ !digits.isEmpty ∧ digits.all isDecimal then
        some (if rest.head? = some '-' then -(decimalValue digits : Int) else decimalValue digits)
      else none
  return Binary64.ofDecimal negative (decimalValue (whole ++ fraction))
    (exponent - fraction.length)

/-- A number or a word for an infinite one or none, with blanks around it and a sign. -/
def readReal? (text : List Char) : Option Binary64 :=
  let chars := plainDigits (stripNumber text)
  let negative := chars.head? == some '-'
  let unsigned := dropSign chars
  let word := String.ofList (unsigned.map Char.toLower)
  if word = "inf" ∨ word = "infinity" then some (.infinite negative)
  else if word = "nan" then some .nan
  else decimalReal? negative unsigned

/-- A part of a number of base sixty. -/
def readRealPart (text : List Char) : Except Error Binary64 :=
  match readReal? text with
  | some value => .ok value
  | none => .error (.notReal (String.ofList text))

/-- Adds up parts, least first, each sixty times as much as the one before. The weight of a part is
rounded before it counts, and it must not be too large for that. -/
def sixtieths (total : Binary64) (weight : Nat) : List Binary64 → Except Error Binary64
  | [] => .ok total
  | part :: rest =>
    match Binary64.ofInt weight with
    | .infinite _ => .error .hugeWeight
    | factor => sixtieths (total.plus (part.times factor)) (60 * weight) rest

def readReal (text : String) : Except Error Datum := do
  let (negative, digits) ← signed (Text.lowercase text).toList
  let value ← match String.ofList digits with
    | ".inf" => pure (Binary64.infinite false)
    | ".nan" => pure Binary64.nan
    | _ =>
      if digits.contains ':' then do
        let parts ← (Text.pieces ':' digits).mapM readRealPart
        sixtieths (.ofInt 0) 1 parts.reverse
      else readRealPart digits
  return .real (if negative then value.negate else value)

/-! ## Times and bytes -/

/-- The zone of a time, which must be less than a day away from UTC. -/
def zoneOf : Option (Option (Bool × List Char × List Char)) → Except Error Zone
  | none => .ok .none
  | some none => .ok .utc
  | some (some (negative, hours, minutes)) =>
    let size : Int := (decimalValue hours * 60 + decimalValue minutes) * 60
    let seconds := if negative then -size else size
    if size < 86400 then .ok (.offset seconds) else .error (.calendar (.offset seconds))

def requireValid (fault : Option CalendarFault) : Except Error Unit :=
  match fault with
  | none => .ok ()
  | some fault => .error (.calendar fault)

def readTime (text : String) : Except Error Datum := do
  match timeParts? (dropLastBreak text.toList) with
  | none => throw .notTime
  | some parts =>
    let day : Day :=
      ⟨decimalValue parts.year, decimalValue parts.month, decimalValue parts.day⟩
    match parts.clock with
    | none => do
      requireValid day.fault?
      return .day day
    | some (hour, minute, second, fraction) => do
      let clock : Clock :=
        ⟨decimalValue hour, decimalValue minute, decimalValue second, microseconds fraction⟩
      let zone ← zoneOf parts.zone
      requireValid (day.fault?.or clock.fault?)
      return .moment ⟨day, clock, zone⟩

def readBytes (text : String) : Except Error Datum :=
  if text.toList.all fun char => char.toNat < 128 then
    match Text.decodeBase64 text.toList with
    | some bytes => .ok (.bytes bytes)
    | none => .error .malformed
  else .error .malformed

/-- The value of a scalar with a tag for scalars; other tags have none. -/
def readLiteral? (tag : Tag) (text : String) : Option (Except Error Datum) :=
  match tag with
  | .null => some (.ok .null)
  | .bool => some (readFlag text)
  | .int => some (readWhole text)
  | .float => some (readReal text)
  | .binary => some (readBytes text)
  | .timestamp => some (readTime text)
  | .str => some (.ok (.text text))
  | _ => none

end Fieldwise.Yaml
