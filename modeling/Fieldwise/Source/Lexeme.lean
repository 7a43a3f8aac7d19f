import Fieldwise.Text.Identifier
import Fieldwise.Text.Utf8

/-! # Lexemes of modules

A module is cut into names, literals, marks, and the ends and indentations of lines. Inside
brackets line ends do not count, and a backslash at the end of a line joins it with the next.
Indentation is measured twice, with tabs to multiples of eight and with tabs of width one, and the
two measures must agree about every step. -/

namespace Fieldwise.Source

/-- A fault of a module's text: what is wrong and on which line. -/
structure SyntaxFault where
  reason : String
  line : Nat
  deriving DecidableEq, Repr

def SyntaxFault.message (fault : SyntaxFault) : String :=
  fault.reason ++ " (line " ++ toString fault.line ++ ")"

/-- What a lexeme is. Names and literals carry their text as written. -/
inductive LexemeKind where
  | name (text : String)
  | number (text : List Char)
  | string (text : List Char)
  | mark (text : String)
  | lineEnd
  | indent
  | dedent
  | ending
  deriving DecidableEq, Repr

structure Lexeme where
  kind : LexemeKind
  line : Nat
  deriving DecidableEq, Repr

/-- A character that may start a name; those beyond ASCII are checked when the name is complete. -/
def isNameStart (char : Char) : Bool :=
  ('a' ≤ char && char ≤ 'z') || ('A' ≤ char && char ≤ 'Z') || char == '_' || 128 ≤ char.toNat

def isDigit (char : Char) : Bool :=
  '0' ≤ char && char ≤ '9'

def isNamePart (char : Char) : Bool :=
  isNameStart char || isDigit char

/-- Whether the text goes on with a whole word. -/
def startsWord (word : String) (chars : List Char) : Bool :=
  word.toList.isPrefixOf chars && !((chars.drop word.length).head?.map isNamePart).getD false

/-- Whether a number may end before this text: before anything but a name, and before the words that
can follow a number. -/
def numberEnds (chars : List Char) : Bool :=
  match chars with
  | [] => true
  | char :: _ =>
    !isNamePart char ||
      ["and", "else", "for", "or", "not"].any (startsWord · chars) ||
      ["if", "in", "is"].any fun word => word.toList.isPrefixOf chars

/-- Digits of one kind with single underscores between them, at least one. -/
def digitGroups (isOne : Char → Bool) : Nat → List Char → Option (List Char × List Char)
  | 0, _ => none
  | fuel + 1, chars =>
    let group := chars.takeWhile isOne
    if group.isEmpty then none
    else
      match chars.dropWhile isOne with
      | '_' :: rest => do
        let (more, rest) ← digitGroups isOne fuel rest
        return (group ++ '_' :: more, rest)
      | rest => some (group, rest)

/-- Decimal digits with single underscores between them. -/
def decimalGroups (chars : List Char) : Option (List Char × List Char) :=
  digitGroups isDigit (chars.length + 1) chars

/-- Decimal digits where there may be none. -/
def optionalGroups (chars : List Char) : Option (List Char × List Char) :=
  if (chars.head?.map isDigit).getD false then decimalGroups chars else some ([], chars)

def endNumber (text rest : List Char) : Option (List Char × List Char) :=
  if numberEnds rest then some (text, rest) else none

/-- The imaginary mark, if there is one, and the end of a number. -/
def imaginaryTail (text rest : List Char) : Option (List Char × List Char) :=
  match rest with
  | 'j' :: rest => endNumber (text ++ ['j']) rest
  | 'J' :: rest => endNumber (text ++ ['j']) rest
  | rest => endNumber text rest

/-- The exponent of a number, if there is one, and what follows it. -/
def exponentTail (text chars : List Char) : Option (List Char × List Char) :=
  match chars with
  | mark :: rest =>
    if mark == 'e' || mark == 'E' then
      match rest with
      | sign :: digits =>
        if sign == '+' || sign == '-' then do
          let (digits, rest) ← decimalGroups digits
          imaginaryTail (text ++ 'e' :: sign :: digits) rest
        else if isDigit sign then do
          let (digits, rest) ← decimalGroups rest
          imaginaryTail (text ++ 'e' :: digits) rest
        else endNumber text chars
      | [] => endNumber text chars
    else imaginaryTail text chars
  | [] => imaginaryTail text chars

/-- The fraction of a number after its point, and what follows it. -/
def fractionTail (text chars : List Char) : Option (List Char × List Char) := do
  let (digits, rest) ← optionalGroups chars
  exponentTail (text ++ digits) rest

/-- What follows the digits before the point. -/
def wholeTail (text chars : List Char) : Option (List Char × List Char) :=
  match chars with
  | '.' :: rest => fractionTail (text ++ ['.']) rest
  | chars => exponentTail text chars

/-- Digits of another base, after the letter that names it; an underscore may come first. -/
def basedNumber (lead : List Char) (isOne : Char → Bool) (chars : List Char) :
    Option (List Char × List Char) := do
  let chars := match chars with
    | '_' :: rest => rest
    | chars => chars
  let (digits, rest) ← digitGroups isOne (chars.length + 1) chars
  if (rest.head?.map isDigit).getD false then none else endNumber (lead ++ digits) rest

def isHexDigit (char : Char) : Bool :=
  (Text.hexDigitValue? char).isSome

def isOctalDigit (char : Char) : Bool :=
  '0' ≤ char && char ≤ '7'

def isBinaryDigit (char : Char) : Bool :=
  char == '0' || char == '1'

/-- Whether decimal digits, underscores aside, are all zeros. -/
def isZeroText (text : List Char) : Bool :=
  text.all fun char => char == '0' || char == '_'

/-- A number at the front of a text that starts with a digit. A whole number other than zero must
not start with a zero. -/
def scanNumber (chars : List Char) : Option (List Char × List Char) :=
  let decimal := do
    let (digits, rest) ← decimalGroups chars
    let (text, tail) ← wholeTail digits rest
    if text == digits && digits.head? == some '0' && !isZeroText digits then none
    else some (text, tail)
  match chars with
  | '0' :: letter :: rest =>
    if letter == 'x' || letter == 'X' then basedNumber ['0', 'x'] isHexDigit rest
    else if letter == 'o' || letter == 'O' then basedNumber ['0', 'o'] isOctalDigit rest
    else if letter == 'b' || letter == 'B' then basedNumber ['0', 'b'] isBinaryDigit rest
    else decimal
  | _ => decimal

/-- The letters before the quote of a string literal, in lower case: nothing, or one of the allowed
combinations. -/
def stringLeads : List String :=
  ["r", "b", "u", "f", "br", "rb", "fr", "rf"]

/-- Splits a string literal into the letters before its quote and the rest. -/
def stringLead? (chars : List Char) : Option (List Char × List Char) :=
  let isQuote := fun (char : Char) => char == '\'' || char == '"'
  let isLead := fun (lead : List Char) =>
    String.ofList (lead.map Char.toLower) ∈ stringLeads
  match chars with
  | quote :: _ =>
    if isQuote quote then some ([], chars)
    else
      match chars with
      | first :: second :: rest =>
        if isQuote second && isLead [first] then some ([first], second :: rest)
        else
          match rest with
          | third :: _ =>
            if isQuote third && isLead [first, second] then some ([first, second], rest) else none
          | [] => none
      | _ => none
  | [] => none

/-- The inside of a string up to its closing quotes, and the rest. A backslash takes the next
character with it. -/
def stringBody (close : List Char) : List Char → Option (List Char × List Char)
  | [] => none
  | '\\' :: char :: rest => do
    let (body, rest) ← stringBody close rest
    return ('\\' :: char :: body, rest)
  | char :: rest =>
    if close.isPrefixOf (char :: rest) then some ([], (char :: rest).drop close.length)
    else if char == '\n' && close.length == 1 then none
    else do
      let (body, rest) ← stringBody close rest
      return (char :: body, rest)

def openingQuotes (chars : List Char) : List Char :=
  match chars with
  | first :: second :: third :: _ =>
    if first = second ∧ second = third then [first, second, third] else [first]
  | first :: _ => [first]
  | [] => []

/-- A string literal with everything that belongs to it, and the rest. -/
def scanString (lead chars : List Char) : Option (List Char × List Char) := do
  let quotes := openingQuotes chars
  let (body, rest) ← stringBody quotes (chars.drop quotes.length)
  return (lead ++ quotes ++ body ++ quotes, rest)

/-- The marks, longer ones first. -/
def marks : List String :=
  ["**=", "//=", "<<=", ">>=", "...", "!=", "%=", "&=", "**", "*=", "+=", "-=", "->", "//", "/=",
    ":=", "<<", "<=", "<>", "==", ">=", ">>", "@=", "^=", "|=", "%", "&", "(", ")", "*", "+", ",",
    "-", ".", "/", ":", ";", "<", "=", ">", "@", "[", "]", "^", "\x7b", "|", "\x7d", "~"]

def closingOf : String → Option String
  | "(" => some ")"
  | "[" => some "]"
  | "\x7b" => some "\x7d"
  | _ => none

def isClosing (mark : String) : Bool :=
  mark == ")" || mark == "]" || mark == "\x7d"

/-- The most brackets that can be open at once. -/
def mostBrackets : Nat := 200

/-- The most indentations that can be open at once, the outermost included. -/
def mostIndents : Nat := 100

/-- The two measures of an indentation. -/
structure Margin where
  wide : Nat
  narrow : Nat
  deriving DecidableEq, Repr

/-- What is known between two lexemes. The lexemes are collected last first, so are the open
brackets with their closing marks and the open indentations. -/
structure ScanState where
  line : Nat
  margins : List Margin
  brackets : List String
  done : List Lexeme

def ScanState.push (state : ScanState) (kind : LexemeKind) : ScanState :=
  { state with done := ⟨kind, state.line⟩ :: state.done }

def ScanState.fault {α : Type} (state : ScanState) (reason : String) : Except SyntaxFault α :=
  .error ⟨reason, state.line⟩

/-- What stands at the start of a line: its margin, the rest, and how many line ends were joined by
backslashes. The first backslash after a margin fixes the margin. -/
def measure (margin : Margin) (fixed : Option Nat) (joined : Nat) :
    List Char → Option (Margin × Nat × List Char)
  | ' ' :: rest => measure ⟨margin.wide + 1, margin.narrow + 1⟩ fixed joined rest
  | '\t' :: rest => measure ⟨(margin.wide / 8 + 1) * 8, margin.narrow + 1⟩ fixed joined rest
  | '\x0c' :: rest => measure ⟨0, 0⟩ fixed joined rest
  | '\\' :: '\n' :: next :: rest =>
    let fixed := if fixed.isNone && 0 < margin.wide then some margin.wide else fixed
    measure margin fixed (joined + 1) (next :: rest)
  | '\\' :: _ => none
  | rest => some ((fixed.map fun width => ⟨width, width⟩).getD margin, joined, rest)

/-- Closes indentations that are deeper than a margin. -/
def ScanState.dedentTo (state : ScanState) (width : Nat) : List Margin → ScanState
  | margin :: outer :: rest =>
    if width < margin.wide then
      ({ state with margins := outer :: rest }.push .dedent).dedentTo width (outer :: rest)
    else state
  | _ => state

/-- Opens or closes indentations for a line with a certain margin. -/
def ScanState.indentTo (state : ScanState) (margin : Margin) : Except SyntaxFault ScanState :=
  let current := state.margins.headD ⟨0, 0⟩
  if margin.wide = current.wide then
    if margin.narrow = current.narrow then .ok state
    else state.fault "inconsistent use of tabs and spaces in indentation"
  else if current.wide < margin.wide then
    if mostIndents ≤ state.margins.length then state.fault "too many levels of indentation"
    else if margin.narrow ≤ current.narrow then
      state.fault "inconsistent use of tabs and spaces in indentation"
    else .ok ({ state with margins := margin :: state.margins }.push .indent)
  else
    let state := state.dedentTo margin.wide state.margins
    if state.margins.headD ⟨0, 0⟩ = margin then .ok state
    else state.fault "unindent does not match any outer indentation level"

/-- Adds a mark and keeps track of brackets. -/
def ScanState.pushMark (state : ScanState) (mark : String) : Except SyntaxFault ScanState :=
  match closingOf mark with
  | some close =>
    if mostBrackets ≤ state.brackets.length then state.fault "too many nested brackets"
    else .ok ({ state with brackets := close :: state.brackets }.push (.mark mark))
  | none =>
    if isClosing mark then
      match state.brackets with
      | close :: rest =>
        if close = mark then .ok ({ state with brackets := rest }.push (.mark mark))
        else state.fault "closing bracket does not match the opening one"
      | [] => state.fault "unmatched closing bracket"
    else .ok (state.push (.mark mark))

/-- The lexeme at the front of a text that starts with none of the characters between lexemes. -/
def scanLexeme (state : ScanState) (chars : List Char) :
    Except SyntaxFault (ScanState × List Char) :=
  match stringLead? chars with
  | some (lead, quoted) =>
    match scanString lead quoted with
    | some (text, rest) =>
      let next := state.push (.string text)
      .ok ({ next with line := state.line + text.count '\n' }, rest)
    | none => state.fault "unterminated string literal"
  | none =>
    match chars with
    | [] => .ok (state, [])
    | char :: tail =>
      if isNameStart char then
        let text := String.ofList (chars.takeWhile isNamePart)
        if Text.isIdentifier text then .ok (state.push (.name text), chars.dropWhile isNamePart)
        else state.fault "invalid character in a name"
      else if isDigit char || (char == '.' && (tail.head?.map isDigit).getD false) then
        let number := if char == '.' then fractionTail ['.'] tail else scanNumber chars
        match number with
        | some (text, rest) => .ok (state.push (.number text), rest)
        | none => state.fault "invalid number"
      else
        match marks.find? fun mark => mark.toList.isPrefixOf chars with
        | some mark => do
          let next ← state.pushMark mark
          return (next, chars.drop mark.length)
        | none => state.fault "invalid character"

/-- Scans the rest of a text; `fresh` tells whether a line starts here. The first argument bounds
the number of steps. -/
def scanFrom : Nat → Bool → ScanState → List Char → Except SyntaxFault (List Lexeme)
  | 0, _, state, _ => state.fault "text too long"
  | fuel + 1, true, state, chars =>
    match measure ⟨0, 0⟩ none 0 chars with
    | none => state.fault "unexpected character after line continuation character"
    | some (margin, joined, rest) =>
      let state := { state with line := state.line + joined }
      match rest with
      | '\n' :: rest => scanFrom fuel true { state with line := state.line + 1 } rest
      | '#' :: rest =>
        match rest.dropWhile (· != '\n') with
        | _ :: rest => scanFrom fuel true { state with line := state.line + 1 } rest
        | [] => scanFrom fuel false state []
      | rest =>
        if state.brackets.isEmpty then do
          scanFrom fuel false (← state.indentTo margin) rest
        else scanFrom fuel false state rest
  | fuel + 1, false, state, chars =>
    match chars with
    | [] =>
      if state.brackets.isEmpty then .ok (state.push .ending).done.reverse
      else state.fault "a bracket was never closed"
    | '\n' :: rest =>
      let state := if state.brackets.isEmpty then state.push .lineEnd else state
      scanFrom fuel true { state with line := state.line + 1 } rest
    | '\\' :: '\n' :: next :: rest =>
      scanFrom fuel false { state with line := state.line + 1 } (next :: rest)
    | '#' :: rest => scanFrom fuel false state (rest.dropWhile (· != '\n'))
    | char :: rest =>
      if char == ' ' || char == '\t' || char == '\x0c' then scanFrom fuel false state rest
      else if char == '\\' then
        state.fault "unexpected character after line continuation character"
      else do
        let (state, rest) ← scanLexeme state chars
        scanFrom fuel false state rest

/-- The text of a module with plain line ends, the last of which is there. -/
def moduleChars (text : List Char) : List Char :=
  let chars := Text.plainNewlines text
  if chars.getLast? = some '\n' then chars else chars ++ ['\n']

def scan (text : List Char) : Except SyntaxFault (List Lexeme) :=
  let chars := moduleChars text
  scanFrom (2 * chars.length + 2) true ⟨1, [⟨0, 0⟩], [], []⟩ chars

end Fieldwise.Source
