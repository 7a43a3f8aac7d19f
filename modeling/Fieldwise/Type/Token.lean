import Fieldwise.Text.Blank
import Fieldwise.Text.Digit
import Fieldwise.Text.Quoted

/-! # Tokens of type texts

The text of a type consists of words and marks with blanks anywhere between them. A word is a
dotted name of ASCII letters, digits and underscores, a quoted literal, a number, or three points;
blanks around the dots of a name are dropped. `Token.scan` cuts a text into tokens,
`scanOne?_shorter` is why that ends. -/

namespace Fieldwise

/-- The punctuation of type texts. -/
inductive Mark where
  | openBracket
  | closeBracket
  | comma
  | bar
  deriving DecidableEq, Repr

inductive Token where
  | word (text : String)
  | mark (punctuation : Mark)
  deriving DecidableEq, Repr

def Mark.char : Mark → Char
  | openBracket => '['
  | closeBracket => ']'
  | comma => ','
  | bar => '|'

def Mark.ofChar? : Char → Option Mark
  | '[' => some openBracket
  | ']' => some closeBracket
  | ',' => some comma
  | '|' => some bar
  | _ => none

namespace Token

def text : Token → String
  | word text => text
  | mark punctuation => punctuation.char.toString

/-- A character that can start a segment of a name. -/
def isNameStart (char : Char) : Bool :=
  ('a' ≤ char && char ≤ 'z') || ('A' ≤ char && char ≤ 'Z') || char == '_'

/-- A character that can continue a segment of a name. -/
def isNamePart (char : Char) : Bool :=
  isNameStart char || ('0' ≤ char && char ≤ '9')

/-- The text after a dot and the blanks around it, if a segment of a name starts there. -/
def afterDot? (chars : List Char) : Option (List Char) :=
  match Text.trimStart chars with
  | '.' :: rest =>
    if ((Text.trimStart rest).head?.map isNameStart).getD false then some (Text.trimStart rest)
    else none
  | _ => none

theorem length_trimStart_le (chars : List Char) :
    (Text.trimStart chars).length ≤ chars.length :=
  (List.dropWhile_suffix _).length_le

theorem afterDot?_shorter {chars rest : List Char} (found : afterDot? chars = some rest) :
    rest.length < chars.length := by
  unfold afterDot? at found
  split at found
  · rename_i tail dotted
    split at found
    · obtain rfl := Option.some.inj found
      have first := length_trimStart_le chars
      have second := length_trimStart_le tail
      rw [dotted, List.length_cons] at first
      omega
    · exact absurd found (by simp)
  · exact absurd found (by simp)

/-- The further segments of a name, each with its dot, and the text after them. -/
def moreSegments (chars : List Char) : List Char × List Char :=
  match _found : afterDot? chars with
  | none => ([], chars)
  | some rest =>
    let (more, tail) := moreSegments (rest.dropWhile isNamePart)
    ('.' :: rest.takeWhile isNamePart ++ more, tail)
termination_by chars.length
decreasing_by
  have shorter := afterDot?_shorter _found
  have := (List.dropWhile_suffix isNamePart (l := rest)).length_le
  omega

theorem length_moreSegments_le (chars : List Char) :
    (moreSegments chars).2.length ≤ chars.length := by
  fun_induction moreSegments chars with
  | case1 chars found => simp
  | case2 chars rest found more tail split ih =>
    have shorter := afterDot?_shorter found
    have := (List.dropWhile_suffix isNamePart (l := rest)).length_le
    rw [split] at ih
    simp only at ih ⊢
    omega

/-- The decimal part of a number, if a point and a digit follow. -/
def decimalPart : List Char → List Char × List Char
  | '.' :: rest =>
    if (rest.head?.map Text.isDigit).getD false then
      ('.' :: rest.takeWhile Text.isDigit, rest.dropWhile Text.isDigit)
    else ([], '.' :: rest)
  | rest => ([], rest)

/-- The literal between quotes of one kind; nothing is escaped. -/
def quotedLiteral? (quote : Char) (chars : List Char) : Option (List Char × List Char) :=
  match chars.dropWhile (· != quote) with
  | [] => none
  | _ :: rest => some (quote :: chars.takeWhile (· != quote) ++ [quote], rest)

/-- A number: digits of any script with an optional decimal part. -/
def number? (chars : List Char) : Option (List Char × List Char) :=
  let digits := chars.takeWhile Text.isDigit
  if digits.isEmpty then none
  else
    let (fraction, rest) := decimalPart (chars.dropWhile Text.isDigit)
    some (digits ++ fraction, rest)

/-- A literal at the front of a text. -/
def literal? : List Char → Option (List Char × List Char)
  | '\'' :: rest => quotedLiteral? '\'' rest
  | '"' :: rest => quotedLiteral? '"' rest
  | '.' :: '.' :: '.' :: rest => some (['.', '.', '.'], rest)
  | '-' :: rest => (number? rest).map fun (digits, rest) => ('-' :: digits, rest)
  | chars => number? chars

/-- The token at the front of a text and the text after it. -/
def scanOne? : List Char → Option (Token × List Char)
  | [] => none
  | char :: rest =>
    if isNameStart char then
      let (more, tail) := moreSegments (rest.dropWhile isNamePart)
      some (word (String.ofList (char :: rest.takeWhile isNamePart ++ more)), tail)
    else
      match literal? (char :: rest) with
      | some (text, tail) => some (word (String.ofList text), tail)
      | none => (Mark.ofChar? char).map fun found => (mark found, rest)

theorem length_decimalPart_le (chars : List Char) :
    (decimalPart chars).2.length ≤ chars.length := by
  unfold decimalPart
  split
  · rename_i rest
    split
    · have := (List.dropWhile_suffix Text.isDigit (l := rest)).length_le
      simp only [List.length_cons]
      omega
    · simp
  · simp

theorem number?_shorter {chars text rest : List Char} (found : number? chars = some (text, rest)) :
    rest.length < chars.length := by
  unfold number? at found
  simp only at found
  split at found
  · exact absurd found (by simp)
  · rename_i some_digit
    obtain ⟨-, rfl⟩ := Prod.mk.inj (Option.some.inj found)
    have cut := congrArg List.length
      (List.takeWhile_append_dropWhile (p := Text.isDigit) (l := chars))
    have tail := length_decimalPart_le (chars.dropWhile Text.isDigit)
    have digits : 0 < (chars.takeWhile Text.isDigit).length := by
      cases h : chars.takeWhile Text.isDigit with
      | nil => simp [h] at some_digit
      | cons => simp
    rw [List.length_append] at cut
    omega

theorem quotedLiteral?_shorter {quote : Char} {chars text rest : List Char}
    (found : quotedLiteral? quote chars = some (text, rest)) : rest.length < chars.length := by
  unfold quotedLiteral? at found
  split at found
  · exact absurd found (by simp)
  · rename_i mark tail dropped
    obtain ⟨-, rfl⟩ := Prod.mk.inj (Option.some.inj found)
    have := (List.dropWhile_suffix (· != quote) (l := chars)).length_le
    rw [dropped, List.length_cons] at this
    omega

theorem literal?_shorter {chars text rest : List Char}
    (found : literal? chars = some (text, rest)) :
    rest.length < chars.length := by
  unfold literal? at found
  split at found
  · have := quotedLiteral?_shorter found
    simp only [List.length_cons]; omega
  · have := quotedLiteral?_shorter found
    simp only [List.length_cons]; omega
  · obtain ⟨-, rfl⟩ := Prod.mk.inj (Option.some.inj found)
    simp only [List.length_cons]; omega
  · obtain ⟨⟨digits, tail⟩, number, same⟩ := Option.map_eq_some_iff.1 found
    obtain ⟨-, rfl⟩ := Prod.mk.inj same
    have := number?_shorter number
    simp only [List.length_cons]; omega
  · exact number?_shorter found

theorem scanOne?_shorter {chars rest : List Char} {token : Token}
    (found : scanOne? chars = some (token, rest)) : rest.length < chars.length := by
  cases chars with
  | nil => exact absurd found (by simp [scanOne?])
  | cons char tail =>
    unfold scanOne? at found
    simp only at found
    split at found
    · obtain ⟨-, rfl⟩ := Prod.mk.inj (Option.some.inj found)
      have dropped := (List.dropWhile_suffix isNamePart (l := tail)).length_le
      have := length_moreSegments_le (tail.dropWhile isNamePart)
      simp only [List.length_cons]; omega
    · split at found
      · rename_i text tail' literal
        obtain ⟨-, rfl⟩ := Prod.mk.inj (Option.some.inj found)
        exact literal?_shorter literal
      · obtain ⟨found, -, same⟩ := Option.map_eq_some_iff.1 found
        obtain ⟨-, rfl⟩ := Prod.mk.inj same
        simp

/-- Cuts a text without trailing blanks into tokens. What is no token is reported by how much text
is left there, blanks before it included. -/
def scanFrom (chars : List Char) : Except Nat (List Token) :=
  if chars.isEmpty then .ok []
  else
    match _found : scanOne? (Text.trimStart chars) with
    | none => .error chars.length
    | some (token, rest) => do
      let tokens ← scanFrom rest
      return token :: tokens
termination_by chars.length
decreasing_by
  have shorter := scanOne?_shorter _found
  have := length_trimStart_le chars
  omega

/-- Cuts a text into tokens; the error is the offset of what is no token. -/
def scan (text : String) : Except Nat (List Token) :=
  let chars := Text.trimEnd text.toList
  (scanFrom chars).mapError fun left => chars.length - left

end Token

end Fieldwise
