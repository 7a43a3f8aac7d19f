import Fieldwise.Number.Whole
import Fieldwise.Source.Lexeme
import Fieldwise.Source.Tree

/-! # Values of literals

Numbers are whole unless they have a fraction, an exponent or an imaginary mark. Inside strings a
backslash starts an escape; an escape that means nothing stands for itself. Texts are lists of code
points, since escapes can give halves of surrogate pairs, which are no characters. -/

namespace Fieldwise.Source

/-- The value of digits in a base; what is no digit is skipped. -/
def basedValue (base : Nat) (digits : List Char) : Nat :=
  digits.foldl (fun value char => ((Text.hexDigitValue? char).map (base * value + ·)).getD value) 0

/-- The number written by decimal digits with an optional fraction and exponent. -/
def realValue (text : List Char) : Binary64 :=
  let mantissa := text.takeWhile (· != 'e')
  let exponent : Int := match text.dropWhile (· != 'e') with
    | _ :: '-' :: digits => -(basedValue 10 digits : Int)
    | _ :: digits => basedValue 10 digits
    | [] => 0
  let fraction := (mantissa.dropWhile (· != '.')).drop 1
  Binary64.ofDecimal false (basedValue 10 mantissa) (exponent - fraction.length)

/-- The value of a number as `scanNumber` cuts it out; a decimal number must not have too many
digits. -/
def numberConstant? (text : List Char) : Option Constant :=
  let text := text.filter (· != '_')
  match text with
  | '0' :: 'x' :: digits => some (.whole (basedValue 16 digits))
  | '0' :: 'o' :: digits => some (.whole (basedValue 8 digits))
  | '0' :: 'b' :: digits => some (.whole (basedValue 2 digits))
  | _ =>
    if text.getLast? = some 'j' then some (.imaginary (realValue text.dropLast))
    else if text.contains '.' || text.contains 'e' then some (.real (realValue text))
    else if mostDigits < text.length then none
    else some (.whole (basedValue 10 text))

/-- Exactly `count` hexadecimal digits. -/
def takeHex (count : Nat) (chars : List Char) : Option (Nat × List Char) :=
  let digits := chars.take count
  if digits.length = count ∧ digits.all isHexDigit then
    some (basedValue 16 digits, chars.drop count)
  else none

/-- Up to three octal digits. -/
def takeOctal (chars : List Char) : Nat × List Char :=
  let digits := (chars.take 3).takeWhile isOctalDigit
  (basedValue 8 digits, chars.drop digits.length)

/-- The code points of the one-letter escapes. -/
def letterEscape? : Char → Option Nat
  | '\\' => some 92
  | '\'' => some 39
  | '"' => some 34
  | 'a' => some 7
  | 'b' => some 8
  | 't' => some 9
  | 'n' => some 10
  | 'v' => some 11
  | 'f' => some 12
  | 'r' => some 13
  | _ => none

/-- An escape after its backslash, as far as texts and bytes share it: the values it stands for and
the rest. An escape that means nothing is `none`. -/
def sharedEscape? (letter : Char) (rest : List Char) : Option (Option Nat × List Char) :=
  if letter == '\n' then some (none, rest)
  else if isOctalDigit letter then
    let (value, rest) := takeOctal (letter :: rest)
    some (some value, rest)
  else (letterEscape? letter).map fun code => (some code, rest)

/-- The code points of the inside of a text. There is no table of the names of characters, so an
escape by name is refused. -/
def textCodes : Nat → List Char → Option (List Nat)
  | 0, _ => none
  | _ + 1, [] => some []
  | fuel + 1, '\\' :: letter :: rest =>
    let code := fun (width : Nat) => do
      let (value, rest) ← takeHex width rest
      if value < 0x110000 then return value :: (← textCodes fuel rest) else none
    match letter with
    | 'x' => code 2
    | 'u' => code 4
    | 'U' => code 8
    | 'N' => none
    | _ =>
      match sharedEscape? letter rest with
      | some (value, rest) => do return value.toList ++ (← textCodes fuel rest)
      | none => do return 92 :: (← textCodes fuel (letter :: rest))
  | fuel + 1, char :: rest => do return char.toNat :: (← textCodes fuel rest)

/-- The values of the inside of bytes, which must be ASCII. -/
def byteValues : Nat → List Char → Option (List UInt8)
  | 0, _ => none
  | _ + 1, [] => some []
  | fuel + 1, '\\' :: letter :: rest =>
    match letter with
    | 'x' => do
      let (value, rest) ← takeHex 2 rest
      return UInt8.ofNat value :: (← byteValues fuel rest)
    | _ =>
      match sharedEscape? letter rest with
      | some (value, rest) =>
        do return (value.map UInt8.ofNat).toList ++ (← byteValues fuel rest)
      | none => do return 92 :: (← byteValues fuel (letter :: rest))
  | fuel + 1, char :: rest =>
    if char.toNat < 128 then do return UInt8.ofNat char.toNat :: (← byteValues fuel rest) else none

/-- A string literal: its kind and the text between its quotes. -/
structure StringLiteral where
  isBytes : Bool
  isRaw : Bool
  isTemplate : Bool
  isMarked : Bool
  body : List Char

def StringLiteral.ofText (text : List Char) : StringLiteral :=
  let isQuote := fun (char : Char) => char == '\'' || char == '"'
  let lead := text.takeWhile fun char => !isQuote char
  let quotedPart := text.drop lead.length
  let quotes := (openingQuotes quotedPart).length
  let width := if quotes = 3 ∧ 6 ≤ quotedPart.length then 3 else 1
  let has := fun (letter : Char) => (lead.map Char.toLower).contains letter
  { isBytes := has 'b', isRaw := has 'r', isTemplate := has 'f', isMarked := lead.contains 'u'
    body := (quotedPart.drop width).take (quotedPart.length - 2 * width) }

/-- The code points of a text, escapes resolved unless it is raw. -/
def literalCodes? (raw : Bool) (body : List Char) : Option (List Nat) :=
  if raw then some (body.map Char.toNat) else textCodes (body.length + 1) body

/-- The values of bytes, escapes resolved unless they are raw. -/
def literalBytes? (raw : Bool) (body : List Char) : Option (List UInt8) :=
  if raw then
    if body.all fun char => char.toNat < 128 then
      some (body.map fun char => UInt8.ofNat char.toNat)
    else none
  else byteValues (body.length + 1) body

end Fieldwise.Source
