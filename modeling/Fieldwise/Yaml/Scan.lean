import Fieldwise.Text.Utf8
import Fieldwise.Yaml.Scalar

/-! # Scanning YAML

Cuts a text into tokens. Outside of brackets the column of the first token of a line opens and
closes collections. A node may turn out to be a key only when a `:` follows it on the same line, so
the places where keys may have started are kept, one for every level of brackets, and the marks of
keys are put in afterwards. -/

namespace Fieldwise.Yaml

/-- A place where a key may have started. A node at the indentation of the current collection has to
turn out to be a key. -/
structure PossibleKey where
  place : Nat
  required : Bool
  index : Nat
  line : Nat
  column : Nat

/-- The state of scanning: the tokens so far, the depth of brackets, the indentation of the current
collection and of those around it, and where keys may start or have started. -/
structure Scanner where
  cursor : Cursor
  tokens : Array Token := #[]
  flowLevel : Nat := 0
  indent : Int := -1
  outer : List Int := []
  keyAllowed : Bool := true
  keys : List (Nat × PossibleKey) := []

namespace Scanner

/-- Whether the current collection is in brackets. -/
def inFlow (scanner : Scanner) : Bool :=
  scanner.flowLevel != 0

def push (token : Token) (scanner : Scanner) : Scanner :=
  { scanner with tokens := scanner.tokens.push token }

/-- Adds a token that takes some characters. -/
def pushOver (count : Nat) (token : Token) (scanner : Scanner) : Scanner :=
  { scanner with cursor := scanner.cursor.advance count, tokens := scanner.tokens.push token }

/-- Closes the collections that are indented by more than `column`. -/
def closeTo (column : Int) (scanner : Scanner) : Scanner :=
  if scanner.inFlow then scanner
  else
    let widths := scanner.indent :: scanner.outer
    let closed := (widths.takeWhile (column < ·)).length
    match widths.drop closed with
    | [] => scanner
    | indent :: outer =>
      { scanner with
        indent, outer, tokens := scanner.tokens ++ Array.replicate closed Token.blockEnd }

/-- Opens a collection at a column unless the current one is there already. The opening token goes
to `place`. -/
def openAt (column place : Nat) (token : Token) (scanner : Scanner) : Scanner :=
  if scanner.indent < column then
    { scanner with
      indent := column, outer := scanner.indent :: scanner.outer
      tokens := scanner.tokens.insertIdxIfInBounds place token }
  else scanner

def openHere (token : Token) (scanner : Scanner) : Scanner :=
  scanner.openAt scanner.cursor.column scanner.tokens.size token

/-- Gives up the possible key of the current level of brackets. -/
def dropKey (scanner : Scanner) : Except Error Scanner :=
  match scanner.keys.lookup scanner.flowLevel with
  | some key =>
    if key.required then .error .malformed
    else .ok { scanner with keys := scanner.keys.filter (·.1 != scanner.flowLevel) }
  | none => .ok scanner

/-- Gives up the possible keys that started on another line or too far back. -/
def dropStaleKeys (scanner : Scanner) : Except Error Scanner :=
  let isStale := fun (key : PossibleKey) =>
    key.line != scanner.cursor.line || 1024 < scanner.cursor.index - key.index
  if scanner.keys.any fun entry => isStale entry.2 && entry.2.required then .error .malformed
  else .ok { scanner with keys := scanner.keys.filter fun entry => !isStale entry.2 }

/-- Remembers that a key may start here. -/
def markKey (scanner : Scanner) : Except Error Scanner :=
  if scanner.keyAllowed then do
    let scanner ← scanner.dropKey
    let cursor := scanner.cursor
    let required := !scanner.inFlow && scanner.indent == cursor.column
    let key := ⟨scanner.tokens.size, required, cursor.index, cursor.line, cursor.column⟩
    return { scanner with keys := (scanner.flowLevel, key) :: scanner.keys }
  else .ok scanner

/-- Skips spaces, comments and line breaks. Outside of brackets a key may start on a new line. -/
def skipGap : Nat → Scanner → Scanner
  | 0, scanner => scanner
  | fuel + 1, scanner =>
    let cursor := scanner.cursor.skipSpaces.skipComment
    match cursor.takeBreak with
    | ([], _) => { scanner with cursor }
    | (_, cursor) =>
      skipGap fuel { scanner with cursor, keyAllowed := scanner.keyAllowed || !scanner.inFlow }

/-! ## Directives and properties of nodes -/

/-- A character of the names of anchors and directives. -/
def isNameChar (char : Char) : Bool :=
  char.isAlphanum || char == '-' || char == '_'

/-- A character of a tag besides percent signs. -/
def isTagChar (char : Char) : Bool :=
  char.isAlphanum || "-;/?:@&=+$,_.!~*'()[]".toList.contains char

/-- A gap that may follow a tag or the words of a directive. -/
def isTagGap (char : Char) : Bool :=
  char == ' ' || isBreak char

def readName (cursor : Cursor) : Except Error (String × Cursor) :=
  match cursor.takeWhile isNameChar with
  | ([], _) => .error .malformed
  | (name, cursor) => .ok (String.ofList name, cursor)

def percentBytes : List Char → Except Error (List UInt8 × List Char)
  | '%' :: high :: low :: rest =>
    match Text.hexDigitValue? high, Text.hexDigitValue? low with
    | some high, some low => do
      let (bytes, rest) ← percentBytes rest
      return (UInt8.ofNat (16 * high + low) :: bytes, rest)
    | _, _ => .error .malformed
  | '%' :: _ => .error .malformed
  | rest => .ok ([], rest)

/-- The characters of a tag up to the first that cannot belong to it. -/
def tagChars : Nat → List Char → Except Error (List Char × List Char)
  | 0, chars => .ok ([], chars)
  | _ + 1, [] => .ok ([], [])
  | fuel + 1, char :: rest =>
    if char = '%' then do
      let (bytes, rest) ← percentBytes (char :: rest)
      match Text.decode bytes with
      | .error _ => throw .malformed
      | .ok decoded =>
        let (others, rest) ← tagChars fuel rest
        return (decoded.toList ++ others, rest)
    else if isTagChar char then do
      let (others, rest) ← tagChars fuel rest
      return (char :: others, rest)
    else .ok ([], char :: rest)

/-- A nonempty tag, or the rest of one. -/
def readTagText (cursor : Cursor) : Except Error (String × Cursor) := do
  let (chars, rest) ← tagChars cursor.fuel cursor.rest
  let count := cursor.rest.length - rest.length
  if count = 0 then throw .malformed
  return (String.ofList chars, cursor.advance count)

/-- The handle at the start of a tag: an exclamation mark alone, or a name between two of them. -/
def readHandle (cursor : Cursor) : Except Error (String × Cursor) :=
  match cursor.rest with
  | '!' :: rest =>
    if startsWith (· == ' ') rest then .ok ("!", cursor.step)
    else
      let name := rest.takeWhile isNameChar
      if startsWith (· == '!') (rest.drop name.length) then
        .ok (String.ofList ('!' :: name ++ ['!']), cursor.advance (name.length + 2))
      else .error .malformed
  | _ => .error .malformed

def requireTagGap (cursor : Cursor) : Except Error Unit :=
  if endsOr isTagGap cursor.rest then .ok () else .error .malformed

def readTag (cursor : Cursor) : Except Error (Token × Cursor) := do
  let afterMark := cursor.rest.drop 1
  let (token, cursor) ←
    if startsWith (· == '<') afterMark then do
      let (text, cursor) ← readTagText (cursor.advance 2)
      if startsWith (· == '>') cursor.rest then pure (Token.tag none text, cursor.step)
      else throw .malformed
    else if endsOr isSpace afterMark then pure (Token.tag none "!", cursor.step)
    else do
      let hasHandle := startsWith (· == '!') (afterMark.dropWhile fun char =>
        !isTagGap char && char != '!')
      let (handle, cursor) ← if hasHandle then readHandle cursor else pure ("!", cursor.step)
      let (suffix, cursor) ← readTagText cursor
      pure (Token.tag (some handle) suffix, cursor)
  requireTagGap cursor
  return (token, cursor)

def readVersionPart (cursor : Cursor) : Except Error (Nat × Cursor) :=
  match cursor.takeWhile isDecimal with
  | ([], _) => .error .malformed
  | (digits, cursor) =>
    if mostDigits < digits.length then .error (.longNumber digits.length)
    else .ok (decimalValue digits, cursor)

/-- Reads a directive: a version, a handle for tags, or one that means nothing here. -/
def readDirective (cursor : Cursor) : Except Error (Token × Cursor) := do
  let (name, cursor) ← readName cursor.step
  requireTagGap cursor
  let (token, cursor) ← match name with
    | "YAML" => do
      let (major, cursor) ← readVersionPart cursor.skipSpaces
      if !startsWith (· == '.') cursor.rest then throw .malformed
      let (_, cursor) ← readVersionPart cursor.step
      requireTagGap cursor
      pure (Token.version major, cursor)
    | "TAG" => do
      let (handle, cursor) ← readHandle cursor.skipSpaces
      if !startsWith (· == ' ') cursor.rest then throw .malformed
      let (start, cursor) ← readTagText cursor.skipSpaces
      requireTagGap cursor
      pure (Token.tagHandle handle start, cursor)
    | _ => pure (Token.otherDirective, cursor.skipLine)
  return (token, ← skipLineEnd cursor)

/-- What may follow the name of an anchor or an alias. -/
def isNameGap (char : Char) : Bool :=
  isSpace char || "?:,]\x7d%@\x60".toList.contains char

/-- Reads the name of an anchor or an alias after its mark. -/
def readAnchor (cursor : Cursor) : Except Error (String × Cursor) := do
  let (name, cursor) ← readName cursor.step
  if endsOr isNameGap cursor.rest then return (name, cursor) else throw .malformed

/-! ## Tokens -/

/-- Ends the document so far: all collections are closed and no key is pending. -/
def endDocument (scanner : Scanner) : Except Error Scanner := do
  let scanner ← (scanner.closeTo (-1)).dropKey
  return { scanner with keyAllowed := false }

def openBracket (token : Token) (scanner : Scanner) : Except Error Scanner := do
  let scanner ← scanner.markKey
  return { scanner.pushOver 1 token with flowLevel := scanner.flowLevel + 1, keyAllowed := true }

def closeBracket (token : Token) (scanner : Scanner) : Except Error Scanner := do
  let scanner ← scanner.dropKey
  if scanner.flowLevel = 0 then throw .malformed
  return { scanner.pushOver 1 token with flowLevel := scanner.flowLevel - 1, keyAllowed := false }

def separate (scanner : Scanner) : Except Error Scanner := do
  return { (← scanner.dropKey).pushOver 1 .flowEntry with keyAllowed := true }

/-- Opens a collection at the current column, if a new line of one may start here. -/
def openLine (token : Token) (scanner : Scanner) : Except Error Scanner :=
  if scanner.inFlow then .ok scanner
  else if scanner.keyAllowed then .ok (scanner.openHere token)
  else .error .malformed

def markEntry (scanner : Scanner) : Except Error Scanner := do
  let scanner ← (← scanner.openLine .blockSequence).dropKey
  return { scanner.pushOver 1 .blockEntry with keyAllowed := true }

def markExplicitKey (scanner : Scanner) : Except Error Scanner := do
  let scanner ← (← scanner.openLine .blockMapping).dropKey
  return { scanner.pushOver 1 .key with keyAllowed := !scanner.inFlow }

/-- The mark of a value. If a key may have started before, it did. -/
def markValue (scanner : Scanner) : Except Error Scanner :=
  match scanner.keys.lookup scanner.flowLevel with
  | some key =>
    let scanner := { scanner with
      keys := scanner.keys.filter (·.1 != scanner.flowLevel)
      tokens := scanner.tokens.insertIdxIfInBounds key.place .key
      keyAllowed := false }
    let scanner :=
      if scanner.inFlow then scanner else scanner.openAt key.column key.place .blockMapping
    .ok (scanner.pushOver 1 .value)
  | none => do
    let scanner ← (← scanner.openLine .blockMapping).dropKey
    return { scanner.pushOver 1 .value with keyAllowed := !scanner.inFlow }

/-- Adds a token that describes or is a node and may start a key. -/
def pushNode (read : Cursor → Except Error (Token × Cursor)) (scanner : Scanner) :
    Except Error Scanner := do
  let scanner ← scanner.markKey
  let (token, cursor) ← read scanner.cursor
  return { scanner.push token with cursor, keyAllowed := false }

def pushQuoted (half : Option Char) (double : Bool) : Scanner → Except Error Scanner :=
  pushNode fun cursor => do
    let (text, cursor) ← readQuoted half double cursor.fuel cursor.step
    return (.scalar false (String.ofList text), cursor)

def pushPlain (scanner : Scanner) : Except Error Scanner := do
  let scanner ← scanner.markKey
  let scalar := readPlain scanner.inFlow scanner.indent scanner.cursor
  return { scanner.push (.scalar true (String.ofList scalar.text)) with
    cursor := scalar.cursor, keyAllowed := scalar.endedLine }

def pushBlock (fold : Bool) (scanner : Scanner) : Except Error Scanner := do
  let scanner ← scanner.dropKey
  let (text, cursor) ← readBlock fold scanner.indent scanner.cursor.step
  return { scanner.push (.scalar false (String.ofList text)) with cursor, keyAllowed := true }

/-- The characters that no plain scalar starts with, gaps apart. -/
def leadingMarks : List Char :=
  "-?:,[]\x7b\x7d#&*!|>'\"%@\x60".toList

/-- Whether a plain scalar starts with a character. A mark of an entry, or outside of brackets of a
key or a value, may be followed by more of the scalar. -/
def startsPlain (inFlow : Bool) (char : Char) (rest : List Char) : Bool :=
  !(isSpace char || leadingMarks.contains char) ||
    (!endsOr isSpace rest && (char == '-' || (!inFlow && (char == '?' || char == ':'))))

/-- Adds the token that starts with a character; the cursor stands before it. -/
def pushToken (half : Option Char) (char : Char) (rest : List Char) (scanner : Scanner) :
    Except Error Scanner :=
  let atStart := scanner.cursor.column == 0
  let gapAfter := endsOr isSpace rest
  if atStart && char == '%' then do
    let scanner ← scanner.endDocument
    let (token, cursor) ← readDirective scanner.cursor
    return { scanner.push token with cursor }
  else if atStart && isDocumentMark '-' (char :: rest) then
    (·.pushOver 3 .documentStart) <$> scanner.endDocument
  else if atStart && isDocumentMark '.' (char :: rest) then
    (·.pushOver 3 .documentEnd) <$> scanner.endDocument
  else if char == '[' then scanner.openBracket .flowSequence
  else if char == '{' then scanner.openBracket .flowMapping
  else if char == ']' then scanner.closeBracket .flowSequenceEnd
  else if char == '}' then scanner.closeBracket .flowMappingEnd
  else if char == ',' then scanner.separate
  else if char == '-' && gapAfter then scanner.markEntry
  else if char == '?' && (scanner.inFlow || gapAfter) then scanner.markExplicitKey
  else if char == ':' && (scanner.inFlow || gapAfter) then scanner.markValue
  else if char == '*' then
    scanner.pushNode fun cursor =>
      (readAnchor cursor).map fun (name, cursor) => (.alias name, cursor)
  else if char == '&' then
    scanner.pushNode fun cursor =>
      (readAnchor cursor).map fun (name, cursor) => (.anchor name, cursor)
  else if char == '!' then scanner.pushNode readTag
  else if char == '|' && !scanner.inFlow then scanner.pushBlock false
  else if char == '>' && !scanner.inFlow then scanner.pushBlock true
  else if char == '\'' then scanner.pushQuoted half false
  else if char == '"' then scanner.pushQuoted half true
  else if startsPlain scanner.inFlow char rest then scanner.pushPlain
  else .error .malformed

def run (half : Option Char) : Nat → Scanner → Array Token
  | 0, scanner => scanner.tokens.push (.broken .malformed)
  | fuel + 1, scanner =>
    match (scanner.skipGap scanner.cursor.fuel).dropStaleKeys with
    | .error error => scanner.tokens.push (.broken error)
    | .ok scanner =>
      let scanner := scanner.closeTo scanner.cursor.column
      let next := match scanner.cursor.rest with
        | [] => scanner.endDocument
        | char :: rest => scanner.pushToken half char rest
      match next with
      | .error error => scanner.tokens.push (.broken error)
      | .ok next => if scanner.cursor.rest.isEmpty then next.tokens else run half fuel next

end Scanner

/-- The tokens of a text. A byte order mark at its start is skipped. In scalars, halves of surrogate
pairs are read as `half`, if that is given. -/
def scan (half : Option Char) (text : String) : List Token :=
  let chars := text.toList
  if chars.all isAllowed then
    let cursor : Cursor := ⟨chars, 0, 0, 0⟩
    let cursor := if chars.head? = some '\ufeff' then cursor.step else cursor
    (Scanner.run half (chars.length + 2) { cursor }).toList
  else [.broken .malformed]

end Fieldwise.Yaml
