import Fieldwise.Number.Shortest
import Fieldwise.Number.Whole
import Fieldwise.Source.Tree
import Fieldwise.Text.Quoted

/-! # Canonical text of expressions

An expression is printed with single blanks around operators and after commas, and with parentheses
only where its place binds tighter than the expression does. Inside a template no backslash may
occur, so strings there choose their quotes to avoid one. -/

namespace Fieldwise.Source

/-- Why an expression has no text. -/
inductive PrintError where
  | backslashInTemplate
  | longNumber
  deriving DecidableEq, Repr

def PrintError.message : PrintError → String
  | backslashInTemplate => "Unable to avoid backslash in f-string expression part"
  | longNumber => unwritableNumberMessage

/-- How tightly an expression binds, or how tightly its place demands it. -/
abbrev Binding := Nat

namespace Binding

def named : Binding := 1
def tuple : Binding := 2
def yield : Binding := 3
/-- A conditional expression or an anonymous function; the demand of most places. -/
def test : Binding := 4
def or : Binding := 5
def and : Binding := 6
def not : Binding := 7
def compare : Binding := 8
def bitOr : Binding := 9
def bitXor : Binding := 10
def bitAnd : Binding := 11
def shift : Binding := 12
def sum : Binding := 13
def term : Binding := 14
def factor : Binding := 15
def power : Binding := 16
def await : Binding := 17
/-- Names, literals and everything in brackets. -/
def atom : Binding := 18

/-- The next tighter demand. -/
def next (binding : Binding) : Binding :=
  if binding < atom then binding + 1 else atom

end Binding

/-- The text and the binding of a binary operator. -/
def BinaryOperator.text : BinaryOperator → String × Binding
  | add => ("+", .sum)
  | subtract => ("-", .sum)
  | multiply => ("*", .term)
  | matrixMultiply => ("@", .term)
  | divide => ("/", .term)
  | remainder => ("%", .term)
  | floorDivide => ("//", .term)
  | power => ("**", .power)
  | shiftLeft => ("<<", .shift)
  | shiftRight => (">>", .shift)
  | bitOr => ("|", .bitOr)
  | bitXor => ("^", .bitXor)
  | bitAnd => ("&", .bitAnd)

/-- The text of a unary operator with the blank after it, and its binding. -/
def UnaryOperator.text : UnaryOperator → String × Binding
  | invert => ("~", .factor)
  | negation => ("not ", .not)
  | plus => ("+", .factor)
  | minus => ("-", .factor)

def Comparison.text : Comparison → String
  | equal => "=="
  | notEqual => "!="
  | less => "<"
  | lessEqual => "<="
  | greater => ">"
  | greaterEqual => ">="
  | is => "is"
  | isNot => "is not"
  | isIn => "in"
  | notIn => "not in"

/-- The word and the binding of a connective. -/
def Connective.text : Connective → String × Binding
  | and => ("and", .and)
  | or => ("or", .or)

def Collection.brackets : Collection → String × String
  | list => ("[", "]")
  | set => ("\x7b", "\x7d")
  | generator => ("(", ")")

/-- The quotes for strings, in order of preference. -/
def allQuotes : List String :=
  ["'", "\"", "\"\"\"", "'''"]

/-- One character of a string between quotes that are chosen to need no escape. Line ends and tabs
may stand as they are. -/
def plainChar (escapeSpace : Bool) (char : Char) : List Char :=
  if !escapeSpace && (char == '\n' || char == '\t') then [char]
  else if char == '\n' then ['\\', 'n']
  else if char == '\t' then ['\\', 't']
  else if char == '\r' then ['\\', 'r']
  else if char == '\\' then ['\\', '\\']
  else if Text.isPrintable char then [char]
  else Text.codeEscape char

/-- Whether a text occurs in another. -/
def occursIn (part : List Char) : List Char → Bool
  | [] => part.isEmpty
  | char :: rest => part.isPrefixOf (char :: rest) || occursIn part rest

/-- Chooses among quotes those between which a text can stand, best first, and gives the text as it
stands there. If there are none, the text is quoted with escapes. -/
def chooseQuotes (quotes : List String) (escapeSpace : Bool) (codes : List Nat) :
    List Char × List String :=
  let escaped := codes.flatMap (Text.shownCode (plainChar escapeSpace))
  let fitting := quotes.filter fun quote =>
    (!escaped.contains '\n' || quote.length == 3) && !occursIn quote.toList escaped
  match fitting with
  | [] =>
    let mark := Text.quoteMark (codes.filterMap Text.charOfCode?)
    let quote := (quotes.find? fun quote => quote.toList.contains mark).getD mark.toString
    (codes.flatMap (Text.shownCode (Text.quotedChar mark)), [quote])
  | _ =>
    match escaped.getLast? with
    | none => (escaped, fitting)
    | some last =>
      let clashes := fun (quote : String) => quote.toList.head? == some last
      let ordered := fitting.filter (fun quote => !clashes quote) ++ fitting.filter clashes
      if (ordered.head?.map clashes).getD false then
        (escaped.dropLast ++ ['\\', last], ordered)
      else (escaped, ordered)

/-- A string between quotes that avoid escapes as far as possible. -/
def plainQuoted (codes : List Nat) : String :=
  let (text, quotes) := chooseQuotes allQuotes false codes
  let quote := quotes.headD "'"
  quote ++ String.ofList text ++ quote

/-- Finds quotes that suit all parts of a template. A part that is text may have its line ends and
tabs escaped. -/
def templateQuotes : List String → List (List Nat × Bool) → Option (List Char × List String)
  | quotes, [] => some ([], quotes)
  | quotes, (part, isText) :: rest =>
    let (text, fitting) := chooseQuotes quotes isText part
    if fitting.all fun quote => !quotes.contains quote then none
    else (templateQuotes fitting rest).map fun (more, quotes) => (text ++ more, quotes)

/-- A template from its parts. Without common quotes everything is escaped between triple quotes. -/
def quotedTemplate (parts : List (List Nat × Bool)) : String :=
  match templateQuotes allQuotes parts with
  | some (text, quotes) =>
    let quote := quotes.headD "'"
    quote ++ String.ofList text ++ quote
  | none =>
    let escaped := parts.flatMap fun (part, _) =>
      part.flatMap (Text.shownCode (Text.quotedChar '\''))
    "'''" ++ String.ofList escaped ++ "'''"

/-- The text of a template with its braces doubled. -/
def doubledBraces (codes : List Nat) : List Nat :=
  codes.flatMap fun code =>
    if code == '{'.toNat || code == '}'.toNat then [code, code] else [code]

/-- A whole number that is not too long to be written. -/
def wholeText (value : Nat) : Except PrintError String :=
  if value < powerOfTen mostDigits then .ok (toString value) else .error .longNumber

/-- A number as a value shows itself; infinities have a name. -/
def Constant.realText : Constant → String
  | real value => value.text true
  | imaginary value => value.text false ++ "j"
  | _ => ""

/-- The text by which a value shows itself. -/
def Constant.show : Constant → Except PrintError String
  | none => .ok "None"
  | flag value => .ok (if value then "True" else "False")
  | ellipsis => .ok "Ellipsis"
  | whole value => wholeText value
  | real value => .ok (realText (.real value))
  | imaginary value => .ok (realText (.imaginary value))
  | text codes _ => .ok (Text.quotedCodes codes)
  | bytes value => .ok (Text.quotedBytes value)

/-- The infinite numbers of source text are literals that are too large. -/
def largeLiteral (value : Binary64) (text : String) : String :=
  match value with
  | .infinite _ => "1e309"
  | _ => text

/-- The source text of a literal. -/
def Constant.print (plain : Bool) : Constant → Except PrintError String
  | ellipsis => .ok "..."
  | real value => .ok (largeLiteral value (realText (.real value)))
  | imaginary value =>
    .ok (largeLiteral value (value.text false) ++ "j")
  | text codes marked =>
    .ok ((if marked then "u" else "") ++
      if plain then plainQuoted codes else Text.quotedCodes codes)
  | constant => constant.show

def parenthesized (needed : Bool) (text : String) : String :=
  if needed then "(" ++ text ++ ")" else text

/-- Items separated by commas; a single one has a comma after it. -/
def tupleText : List String → String
  | [single] => single ++ ","
  | items => ", ".intercalate items

/-- An expression of a template in its braces, from its text and the text of its format. -/
def fieldText (value : String) (conversion : Option Char) (format : List Nat) :
    Except PrintError (List Nat) :=
  let value := value.toList
  if value.contains '\\' then .error .backslashInTemplate
  else
    let conversion := match conversion with
      | some char => ['!', char]
      | none => []
    let blank := if value.head? == some '{' then [' '] else []
    .ok (('{' :: blank ++ value ++ conversion).map Char.toNat ++ format ++ ['}'.toNat])

namespace Expr

mutual

/-- Prints an expression for a place that demands a binding. With `plain`, strings avoid
backslashes. -/
def print (plain : Bool) (demand : Binding) : Expr → Except PrintError String
  | name text => .ok text
  | constant value => value.print plain
  | member (constant (.whole value)) attr => do
    return (← wholeText value) ++ " ." ++ attr
  | member (constant (.flag value)) attr => do
    return (← (Constant.flag value).show) ++ " ." ++ attr
  | member value attr => do return (← print plain .atom value) ++ "." ++ attr
  | subscript value (tuple items) => do
    let base ← print plain .atom value
    let items ← printAll plain .test items
    return base ++ "[" ++ (if items.isEmpty then "()" else tupleText items) ++ "]"
  | subscript value index => do
    let base ← print plain .atom value
    return base ++ "[" ++ (← print plain .test index) ++ "]"
  | slice lower upper step => do
    let lower ← printOption plain .test "" lower
    let upper ← printOption plain .test "" upper
    return lower ++ ":" ++ upper ++ (← printOption plain .test ":" step)
  | call function arguments keywords => do
    let function ← print plain .atom function
    let arguments ← printAll plain .test arguments
    let keywords ← printKeywords plain keywords
    return function ++ "(" ++ ", ".intercalate (arguments ++ keywords) ++ ")"
  | starred value => do return "*" ++ (← print plain .bitOr value)
  | tuple items => do
    let items ← printAll plain .test items
    return parenthesized (items.isEmpty || Binding.tuple < demand) (tupleText items)
  | list items => do return "[" ++ ", ".intercalate (← printAll plain .test items) ++ "]"
  | set items => do
    return "\x7b" ++ ", ".intercalate (← printAll plain .test items) ++ "\x7d"
  | dict entries => do
    return "\x7b" ++ ", ".intercalate (← printEntries plain entries) ++ "\x7d"
  | connected connective operands => do
    let (word, binding) := connective.text
    let operands ← printRising plain binding operands
    return parenthesized (binding < demand) ((" " ++ word ++ " ").intercalate operands)
  | binary operator left right => do
    let (text, binding) := operator.text
    let rightFirst := operator == .power
    let left ← print plain (if rightFirst then binding.next else binding) left
    let right ← print plain (if rightFirst then binding else binding.next) right
    return parenthesized (binding < demand) (left ++ " " ++ text ++ " " ++ right)
  | unary operator operand => do
    let (text, binding) := operator.text
    return parenthesized (binding < demand) (text ++ (← print plain binding operand))
  | compare first others => do
    let first ← print plain Binding.compare.next first
    return parenthesized (Binding.compare < demand) (first ++ (← printComparisons plain others))
  | conditional test body otherwise => do
    let body ← print plain Binding.test.next body
    let test ← print plain Binding.test.next test
    let otherwise ← print plain .test otherwise
    return parenthesized (Binding.test < demand) (body ++ " if " ++ test ++ " else " ++ otherwise)
  | lambda parameters body => do
    let parameters ← printParameters plain parameters
    let body ← print plain .test body
    return parenthesized (Binding.test < demand)
      ("lambda" ++ (if parameters.isEmpty then "" else " " ++ ", ".intercalate parameters) ++
        ": " ++ body)
  | named target value => do
    let target ← print plain .atom target
    let value ← print plain .atom value
    return parenthesized (Binding.named < demand) (target ++ " := " ++ value)
  | comprehension collection element clauses => do
    let element ← print plain .test element
    let (opening, closing) := collection.brackets
    return opening ++ element ++ (← printClauses plain clauses) ++ closing
  | dictComprehension key value clauses => do
    let key ← print plain .test key
    let value ← print plain .test value
    return "\x7b" ++ key ++ ": " ++ value ++ (← printClauses plain clauses) ++ "\x7d"
  | await value => do
    return parenthesized (Binding.await < demand) ("await " ++ (← print plain .atom value))
  | yield value => do
    return parenthesized (Binding.yield < demand)
      ("yield" ++ (← printOption plain .atom " " value))
  | yieldFrom value => do
    return parenthesized (Binding.yield < demand) ("yield from " ++ (← print plain .atom value))
  | template parts => do
    let parts ← templateParts parts
    return "f" ++ if plain then plainQuoted (parts.flatMap (·.1)) else quotedTemplate parts
  | field value conversion format => do
    let value ← print true Binding.test.next value
    return "f" ++ Text.quotedCodes (← fieldText value conversion (← formatText format))

def printAll (plain : Bool) (demand : Binding) : List Expr → Except PrintError (List String)
  | [] => .ok []
  | first :: rest => do
    let first ← print plain demand first
    return first :: (← printAll plain demand rest)

/-- Prints the operands of a connective; each one's place binds tighter than the one before. -/
def printRising (plain : Bool) (binding : Binding) : List Expr → Except PrintError (List String)
  | [] => .ok []
  | first :: rest => do
    let first ← print plain binding.next first
    return first :: (← printRising plain binding.next rest)

/-- Prints an expression with a text before it, if there is one. -/
def printOption (plain : Bool) (demand : Binding) (lead : String) :
    Option Expr → Except PrintError String
  | none => .ok ""
  | some value => do return lead ++ (← print plain demand value)

def printKeywords (plain : Bool) :
    List (Option String × Expr) → Except PrintError (List String)
  | [] => .ok []
  | (none, value) :: rest => do
    let first := "**" ++ (← print plain .test value)
    return first :: (← printKeywords plain rest)
  | (some label, value) :: rest => do
    let first := label ++ "=" ++ (← print plain .test value)
    return first :: (← printKeywords plain rest)

def printEntries (plain : Bool) : List (Option Expr × Expr) → Except PrintError (List String)
  | [] => .ok []
  | (none, value) :: rest => do
    let first := "**" ++ (← print plain .bitOr value)
    return first :: (← printEntries plain rest)
  | (some key, value) :: rest => do
    let key ← print plain .test key
    let first := key ++ ": " ++ (← print plain .test value)
    return first :: (← printEntries plain rest)

def printComparisons (plain : Bool) : List (Comparison × Expr) → Except PrintError String
  | [] => .ok ""
  | (comparison, value) :: rest => do
    let value ← print plain Binding.compare.next value
    return " " ++ comparison.text ++ " " ++ value ++ (← printComparisons plain rest)

def printClauses (plain : Bool) : List (Clause Expr) → Except PrintError String
  | [] => .ok ""
  | ⟨isAsync, target, iterable, conditions⟩ :: rest => do
    let target ← print plain .tuple target
    let iterable ← print plain Binding.test.next iterable
    let conditions ← printAll plain Binding.test.next conditions
    return (if isAsync then " async for " else " for ") ++ target ++ " in " ++ iterable ++
      String.join (conditions.map (" if " ++ ·)) ++ (← printClauses plain rest)

def printDefaults (plain : Bool) :
    List (String × Option Expr) → Except PrintError (List String)
  | [] => .ok []
  | (label, value) :: rest => do
    let first := label ++ (← printOption plain .test "=" value)
    return first :: (← printDefaults plain rest)

def printParameters (plain : Bool) : Parameters Expr → Except PrintError (List String)
  | ⟨positionalOnly, positional, rest, keywordOnly, keywords⟩ => do
    let positionalOnly ← printDefaults plain positionalOnly
    let positional ← printDefaults plain positional
    let keywordOnly ← printDefaults plain keywordOnly
    let mark := match rest with
      | some label => ["*" ++ label]
      | none => if keywordOnly.isEmpty then [] else ["*"]
    return positionalOnly ++ (if positionalOnly.isEmpty then [] else ["/"]) ++ positional ++ mark ++
      keywordOnly ++ (keywords.map ("**" ++ ·)).toList

/-- The parts of a template as they stand between its quotes, and whether each is text. -/
def templateParts : List Expr → Except PrintError (List (List Nat × Bool))
  | [] => .ok []
  | part :: rest => do
    let first ← templatePart part
    return first :: (← templateParts rest)

/-- A part of a template as it stands between its quotes, and whether it is text. -/
def templatePart : Expr → Except PrintError (List Nat × Bool)
  | constant (.text codes _) => .ok (doubledBraces codes, true)
  | field value conversion format => do
    let value ← print true Binding.test.next value
    return (← fieldText value conversion (← formatText format), false)
  | template parts => do return ((← templateParts parts).flatMap (·.1), false)
  | _ => .ok ([], false)

/-- The format of an expression in a template. -/
def formatText : Option Expr → Except PrintError (List Nat)
  | none => .ok []
  | some format => do return ':'.toNat :: (← templatePart format).1

end

/-- The canonical text of an expression. -/
def text (expr : Expr) : Except PrintError String :=
  expr.print false .test

end Expr

end Fieldwise.Source
