import Fieldwise.Source.Literal

/-! # Templates

A template is a text with expressions in braces. Doubled braces stand for themselves, an expression
may be followed by `=`, by a conversion and by a format, and a format may hold expressions again,
but only one level deep. -/

namespace Fieldwise.Source

/-- A part of a template: text, or an expression with its conversion and format. -/
inductive TemplatePart where
  | text (codes : List Nat)
  | value (field : Expr)

/-- The literal text at the front of a template. It ends before a brace, or, with `again`, after a
doubled brace of which it keeps one. -/
def templateText (raw nested : Bool) : List Char → Option (List Char × Bool × List Char)
  | [] => some ([], false, [])
  | '\\' :: 'N' :: '{' :: rest =>
    if raw then do
      let (text, again, rest) ← templateText raw nested ('{' :: rest)
      return ('\\' :: 'N' :: text, again, rest)
    else none
  | '\\' :: char :: rest =>
    if raw || char == '{' || char == '}' then do
      let (text, again, rest) ← templateText raw nested (char :: rest)
      return ('\\' :: text, again, rest)
    else do
      let (text, again, rest) ← templateText raw nested rest
      return ('\\' :: char :: text, again, rest)
  | char :: rest =>
    if char == '{' || char == '}' then
      if !nested && rest.head? == some char then some ([char], true, rest.tail)
      else if !nested && char == '}' then none
      else some ([], false, char :: rest)
    else do
      let (text, again, rest) ← templateText raw nested rest
      return (char :: text, again, rest)

/-- The quotes that a string inside an expression was opened with. -/
structure OpenString where
  quote : Char
  triple : Bool

/-- Whether three equal quotes stand at the front of a text. -/
def startsTriple (quote : Char) (chars : List Char) : Bool :=
  [quote, quote, quote].isPrefixOf chars

/-- How many characters to take at once inside a string, and whether they end it. -/
def insideString (opened : OpenString) (chars : List Char) : Nat × Bool :=
  if chars.head? != some opened.quote then (1, false)
  else if !opened.triple then (1, true)
  else if startsTriple opened.quote chars then (3, true)
  else (1, false)

/-- The brackets after a character outside of strings; `none` if it closes what is not open. -/
def nextBrackets (brackets : List Char) (char : Char) : Option (List Char) :=
  if (closingOf char.toString).isSome then
    if mostBrackets ≤ brackets.length then none else some (char :: brackets)
  else if isClosing char.toString then
    match brackets with
    | opening :: outer =>
      if closingOf opening.toString == some char.toString then some outer else none
    | [] => none
  else some brackets

/-- The text of an expression up to the character that ends it outside of strings and brackets. The
first argument bounds the number of steps. -/
def expressionText :
    Nat → Option OpenString → List Char → List Char → Option (List Char × List Char)
  | 0, _, _, _ => none
  | _ + 1, _, _, [] => none
  | fuel + 1, opened, brackets, char :: rest =>
    let chars := char :: rest
    let take := fun (count : Nat) (opened : Option OpenString) (brackets : List Char) => do
      let (text, tail) ← expressionText fuel opened brackets (chars.drop count)
      return (chars.take count ++ text, tail)
    if char == '\\' then none
    else
      match opened with
      | some found =>
        let (count, ends) := insideString found chars
        take count (if ends then none else opened) brackets
      | none =>
        if char == '#' then none
        else if char == '\'' || char == '"' then
          if startsTriple char chars then take 3 (some ⟨char, true⟩) brackets
          else take 1 (some ⟨char, false⟩) brackets
        else if brackets.isEmpty && ['!', ':', '}', '=', '<', '>'].contains char then
          if ['!', '=', '<', '>'].contains char && rest.head? == some '=' then take 2 none brackets
          else if char == '<' || char == '>' then take 1 none brackets
          else some ([], chars)
        else do
          take 1 none (← nextBrackets brackets char)

/-- A blank that the self-documenting form keeps with the expression. -/
def isFieldBlank (char : Char) : Bool :=
  char == ' ' || ('\t' ≤ char && char ≤ '\r')

/-- The conversion after an exclamation mark. -/
def takeConversion : List Char → Option (Option Char × List Char)
  | '!' :: char :: rest =>
    if char == 's' || char == 'r' || char == 'a' then some (some char, rest) else none
  | '!' :: [] => none
  | rest => some (none, rest)

/-- Joins neighbouring texts; a value with no text before it follows directly. -/
def mergeParts (pending : List Nat) : List TemplatePart → List Expr
  | [] => if pending.isEmpty then [] else [.constant (.text pending false)]
  | .text codes :: rest => mergeParts (pending ++ codes) rest
  | .value field :: rest =>
    (if pending.isEmpty then [] else [.constant (.text pending false)]) ++
      field :: mergeParts [] rest

/-- An expression in braces, after the opening one. `format` reads a format up to its closing
brace. -/
def readField (expression : List Char → Option Expr)
    (format : List Char → Option (List TemplatePart × List Char)) (chars : List Char) :
    Option (List TemplatePart × List Char) := do
  let (text, rest) ← expressionText (chars.length + 1) none [] chars
  if text.all fun char => char == ' ' || char == '\t' || char == '\n' || char == '\x0c' then none
  else
    let value ← expression text
    let (shown, rest) := match rest with
      | '=' :: rest =>
        (some (text ++ '=' :: rest.takeWhile isFieldBlank), rest.dropWhile isFieldBlank)
      | rest => (none, rest)
    let (conversion, rest) ← takeConversion rest
    let (spec, rest) ← match rest with
      | ':' :: rest => do
        let (parts, rest) ← format rest
        pure (some (Expr.template (mergeParts [] parts)), rest)
      | rest => pure (none, rest)
    match rest with
    | '}' :: rest =>
      let conversion := if shown.isSome && spec.isNone && conversion.isNone then some 'r'
        else conversion
      let value := TemplatePart.value (.field value conversion spec)
      match shown with
      | some shown => return ([.text (shown.map Char.toNat), value], rest)
      | none => return ([value], rest)
    | _ => none

/-- The parts of a template. `field` reads an expression after its opening brace. -/
def readParts (raw nested : Bool) (field : List Char → Option (List TemplatePart × List Char)) :
    Nat → List Char → Option (List TemplatePart × List Char)
  | 0, _ => none
  | fuel + 1, chars => do
    let (text, again, rest) ← templateText raw nested chars
    let codes ← literalCodes? raw text
    if again then
      let (parts, rest) ← readParts raw nested field fuel rest
      return (.text codes :: parts, rest)
    else
      match rest with
      | '{' :: rest =>
        let (found, rest) ← field rest
        let (parts, rest) ← readParts raw nested field fuel rest
        return (.text codes :: found ++ parts, rest)
      | rest => return ([.text codes], rest)

/-- The parts of a format in which expressions may stand `depth` levels deep. -/
def readFormat (raw : Bool) (expression : List Char → Option Expr) :
    Nat → List Char → Option (List TemplatePart × List Char)
  | 0, chars => readParts raw true (fun _ => none) (chars.length + 1) chars
  | depth + 1, chars =>
    readParts raw true (readField expression (readFormat raw expression depth))
      (chars.length + 1) chars

def readTemplate (raw : Bool) (expression : List Char → Option Expr) (chars : List Char) :
    Option (List TemplatePart) := do
  let field := readField expression (readFormat raw expression 1)
  let (parts, rest) ← readParts raw false field (chars.length + 1) chars
  if rest.isEmpty then return parts else none

/-- The value of string literals that stand side by side. -/
def joinStrings (expression : List Char → Option Expr) (literals : List StringLiteral) :
    Option Expr := do
  if literals.all (·.isBytes) then
    let values ← literals.mapM fun literal => literalBytes? literal.isRaw literal.body
    return .constant (.bytes values.flatten)
  else if literals.any (·.isBytes) then none
  else
    let parts ← literals.mapM fun literal =>
      if literal.isTemplate then readTemplate literal.isRaw expression literal.body
      else (literalCodes? literal.isRaw literal.body).map fun codes => [.text codes]
    if literals.any (·.isTemplate) then return .template (mergeParts [] parts.flatten)
    else
      let codes := parts.flatten.flatMap fun part =>
        match part with
        | .text codes => codes
        | .value _ => []
      return .constant (.text codes ((literals.head?.map (·.isMarked)).getD false))

end Fieldwise.Source
