import Fieldwise.Source.Reader
import Fieldwise.Source.Template

/-! # The grammar of expressions

Expressions bind, from loosest to tightest: named expressions, conditionals and anonymous
functions, disjunctions, conjunctions, negations, comparisons, the bit operators, shifts, sums,
products, signs, powers, waiting, and finally names and literals with what is attached to them.
`Rules` holds the rules that others refer to; `Rules.step` states all of them with the nested ones
given. -/

namespace Fieldwise.Source

open Reader

/-- The rules of expressions that occur inside others. -/
structure Rules where
  expression : Reader Expr
  namedExpression : Reader Expr
  starExpressions : Reader Expr
  yieldExpression : Reader Expr
  disjunction : Reader Expr
  inversion : Reader Expr
  bitOr : Reader Expr
  factor : Reader Expr
  primary : Reader Expr

/-- Whether an expression can be assigned to: a name, a member, an item, or a sequence of such with
any number of starred ones. -/
def Expr.isTarget (allowStar : Bool) : Expr → Bool
  | name _ => true
  | member _ _ => true
  | subscript _ _ => true
  | tuple items => all items
  | list items => all items
  | starred value => allowStar && isTarget false value
  | _ => false
where
  /-- Every item can be assigned to. -/
  all : List Expr → Bool
    | [] => true
    | first :: rest => isTarget true first && all rest

/-- A name, a member or an item. -/
def Expr.isPlace : Expr → Bool
  | name _ => true
  | member _ _ => true
  | subscript _ _ => true
  | _ => false

/-- Whether a lexeme ends a list of expressions that may have a comma at its end. -/
def endsExpressions : LexemeKind → Bool
  | .lineEnd => true
  | .ending => true
  | .name "in" => true
  | .mark text =>
    isClosing text || text == "=" || text == ":" || text == ";" ||
      (2 ≤ text.length && text.endsWith "=" &&
        !(["==", "!=", "<=", ">=", ":="].contains text))
  | _ => false

/-- The expressions of a list as one: several, or one with a comma after it, make a tuple. -/
def tupleOf (items : List Expr) (isTuple : Bool) : Expr :=
  match items with
  | [single] => if isTuple then .tuple items else single
  | _ => .tuple items

/-- One of some operators, if it comes next. -/
def operatorOf {α : Type} (operators : List (String × α)) : Reader (Option α) := do
  match ← peek with
  | .mark text =>
    match operators.lookup text with
    | some operator =>
      skip
      return some operator
    | none => return none
  | _ => return none

/-- Operands between operators that group to the left. -/
def leftChain (operators : List (String × BinaryOperator)) (operand : Reader Expr) :
    Reader Expr := do
  let first ← operand
  let rest ← many do
    match ← operatorOf operators with
    | some operator => return some (operator, ← operand)
    | none => return none
  return rest.foldl (fun left (operator, right) => .binary operator left right) first

/-- Operands joined by a word; a single one stands for itself. -/
def joinedBy (connective : Connective) (text : String) (operand : Reader Expr) : Reader Expr := do
  let first ← operand
  let rest ← many do
    if ← acceptsWord text then return some (← operand) else return none
  return if rest.isEmpty then first else .connected connective (first :: rest)

namespace Rules

def starOr (inner : Rules) (item : Reader Expr) : Reader Expr := do
  if ← acceptsMark "*" then return .starred (← inner.bitOr) else item

/-- An item of a bracketed list. -/
def starNamed (inner : Rules) : Reader Expr :=
  inner.starOr inner.namedExpression

/-- A target of an assignment, up to an operator. -/
def targetItem (inner : Rules) : Reader Expr := do
  if ← acceptsMark "*" then return .starred (← inner.primary) else inner.primary

def targets (inner : Rules) : Reader Expr := do
  let (items, isTuple) ← commaList (· == .name "in") inner.targetItem
  let target := tupleOf items isTuple
  if target.isTarget true then return target else fail "cannot assign to an expression"

def clause? (inner : Rules) : Reader (Option (Clause Expr)) := do
  let isAsync := (← peek) == .name "async" && (← peekSecond) == .name "for"
  if isAsync then skip
  if ← acceptsWord "for" then
    let target ← inner.targets
    word "in"
    let iterable ← inner.disjunction
    let conditions ← many do
      if ← acceptsWord "if" then return some (← inner.disjunction) else return none
    return some ⟨isAsync, target, iterable, conditions⟩
  else return none

def clauses (inner : Rules) : Reader (List (Clause Expr)) :=
  many inner.clause?

def seesClause : Reader Bool := do
  return (← peek) == .name "for" || ((← peek) == .name "async" && (← peekSecond) == .name "for")

/-- Whether an expression that is given a name comes next, with no parentheses around it. -/
def seesNamed : Reader Bool := do
  return (nameOf? (← peek)).isSome && (← peekSecond) == .mark ":="

/-- Whether an item can be the element of a comprehension. -/
def isElement : Expr → Bool
  | .starred _ => false
  | _ => true

/-- What stands between parentheses, after the opening one. -/
def parenthesis (inner : Rules) : Reader Expr := do
  if ← acceptsMark ")" then return .tuple []
  else if ← seesWord "yield" then
    let value ← inner.yieldExpression
    mark ")"
    return value
  else
    let first ← inner.starNamed
    if (← seesClause) && isElement first then
      let clauses ← inner.clauses
      mark ")"
      return .comprehension .generator first clauses
    else
      let (rest, trailing) ← moreItems (· == .mark ")") inner.starNamed (← get).length
      mark ")"
      if rest.isEmpty && !trailing then
        if isElement first then return first else fail "cannot use a starred expression here"
      else return .tuple (first :: rest)

def bracket (inner : Rules) : Reader Expr := do
  if ← acceptsMark "]" then return .list []
  else
    let first ← inner.starNamed
    if (← seesClause) && isElement first then
      let clauses ← inner.clauses
      mark "]"
      return .comprehension .list first clauses
    else
      let (rest, _) ← moreItems (· == .mark "]") inner.starNamed (← get).length
      mark "]"
      return .list (first :: rest)

def entry (inner : Rules) : Reader (Option Expr × Expr) := do
  if ← acceptsMark "**" then return (none, ← inner.bitOr)
  else
    let key ← inner.expression
    mark ":"
    return (some key, ← inner.expression)

/-- The other entries of a dictionary, and its end. -/
def moreEntries (inner : Rules) (first : Option Expr × Expr) : Reader Expr := do
  let (rest, _) ← moreItems (· == .mark "\x7d") inner.entry (← get).length
  mark "\x7d"
  return .dict (first :: rest)

def brace (inner : Rules) : Reader Expr := do
  if ← acceptsMark "\x7d" then return .dict []
  else if ← seesMark "**" then inner.moreEntries (← inner.entry)
  else
    let isNamed ← seesNamed
    let first ← inner.starNamed
    if isElement first && !isNamed && (← seesMark ":") then
      skip
      let value ← inner.expression
      if ← seesClause then
        let clauses ← inner.clauses
        mark "\x7d"
        return .dictComprehension first value clauses
      else inner.moreEntries (some first, value)
    else if (← seesClause) && isElement first then
      let clauses ← inner.clauses
      mark "\x7d"
      return .comprehension .set first clauses
    else
      let (rest, _) ← moreItems (· == .mark "\x7d") inner.starNamed (← get).length
      mark "\x7d"
      return .set (first :: rest)

/-- The expression of a template's field, read between parentheses. -/
def fieldExpression? (inner : Rules) (chars : List Char) : Option Expr :=
  match scan ('(' :: chars ++ [')']) with
  | .error _ => none
  | .ok lexemes =>
    match inner.starExpressions lexemes with
    | .ok (value, _) => some value
    | .error _ => none

/-- String literals that stand side by side. -/
def strings (inner : Rules) : Reader Expr := do
  let literals ← many do
    match ← peek with
    | .string text =>
      skip
      return some (StringLiteral.ofText text)
    | _ => return none
  match joinStrings inner.fieldExpression? literals with
  | some value => return value
  | none => fail "invalid string literal"

def constantWords : List (String × Constant) :=
  [("None", .none), ("True", .flag true), ("False", .flag false)]

/-- A name, a literal, or something in brackets. -/
def atom (inner : Rules) : Reader Expr := do
  match ← peek with
  | .name text =>
    match constantWords.lookup text with
    | some constant =>
      skip
      return .constant constant
    | none => return .name (← name)
  | .number text =>
    match numberConstant? text with
    | some constant =>
      skip
      return .constant constant
    | none => fail "number has too many digits"
  | .string _ => inner.strings
  | .mark "..." =>
    skip
    return .constant .ellipsis
  | .mark "(" =>
    skip
    inner.parenthesis
  | .mark "[" =>
    skip
    inner.bracket
  | .mark "\x7b" =>
    skip
    inner.brace
  | _ => fail

inductive Argument where
  | positional (value : Expr)
  | keyword (name : Option String) (value : Expr)

/-- Reads an argument. After a named argument only named and starred ones may follow, after a doubly
starred one only named and doubly starred ones; `stage` counts these steps. -/
def argument (inner : Rules) (stage : Nat) : Reader Argument := do
  match ← peek, ← peekSecond with
  | .mark "*", _ =>
    if stage < 2 then
      skip
      return .positional (.starred (← inner.expression))
    else fail
  | .mark "**", _ =>
    skip
    return .keyword none (← inner.expression)
  | .name text, .mark "=" =>
    match nameOf? (.name text) with
    | some _ =>
      let label ← name
      skip
      return .keyword (some label) (← inner.expression)
    | none => fail
  | _, _ =>
    if stage = 0 then return .positional (← inner.namedExpression) else fail

/-- How far the order of arguments has come after another one. -/
def Argument.stage (stage : Nat) : Argument → Nat
  | positional _ => stage
  | keyword (some _) _ => max stage 1
  | keyword none _ => 2

/-- Further arguments, each after a comma. -/
def moreArguments (inner : Rules) : Nat → Nat → Reader (List Argument)
  | 0, _ => return []
  | fuel + 1, stage => do
    if ← acceptsMark "," then
      if ← seesMark ")" then return []
      else
        let next ← inner.argument stage
        return next :: (← inner.moreArguments fuel (next.stage stage))
    else return []

/-- The arguments of a call up to the closing parenthesis, positional ones first. A single
comprehension needs no parentheses of its own if `allowGenerator`. -/
def arguments (inner : Rules) (allowGenerator : Bool) :
    Reader (List Expr × List (Option String × Expr)) := do
  if ← acceptsMark ")" then return ([], [])
  else
    let first ← inner.argument 0
    match first, allowGenerator && (← seesClause) with
    | .positional value, true =>
      if isElement value then
        let clauses ← inner.clauses
        mark ")"
        return ([.comprehension .generator value clauses], [])
      else fail
    | _, _ =>
      let rest ← inner.moreArguments (← get).length (first.stage 0)
      mark ")"
      let all := first :: rest
      let positional := all.filterMap fun argument => match argument with
        | .positional value => some value
        | .keyword _ _ => none
      let keywords := all.filterMap fun argument => match argument with
        | .positional _ => none
        | .keyword label value => some (label, value)
      return (positional, keywords)

/-- Whether the part of a slice is left out. -/
def endsSlicePart : LexemeKind → Bool
  | .mark text => text == ":" || text == "," || text == "]"
  | _ => false

/-- A part of a slice that may be left out. -/
def slicePart (inner : Rules) : Reader (Option Expr) := do
  if endsSlicePart (← peek) then return none else return some (← inner.expression)

/-- The rest of a slice after its first colon. -/
def sliceTail (inner : Rules) (lower : Option Expr) : Reader Expr := do
  let upper ← inner.slicePart
  let step ← if ← acceptsMark ":" then inner.slicePart else pure none
  return .slice lower upper step

/-- An index: a slice, a starred expression or a named one. -/
def indexItem (inner : Rules) : Reader Expr := do
  if ← acceptsMark ":" then inner.sliceTail none
  else if ← acceptsMark "*" then return .starred (← inner.expression)
  else
    let isNamed ← seesNamed
    let value ← inner.namedExpression
    if !isNamed && (← seesMark ":") then
      skip
      inner.sliceTail (some value)
    else return value

/-- What stands between the brackets of an index. -/
def index (inner : Rules) : Reader Expr := do
  let (items, isTuple) ← commaList (· == .mark "]") inner.indexItem
  mark "]"
  match items with
  | [.starred _] => return .tuple items
  | _ => return tupleOf items isTuple

/-- Something attached to a value: a member, an index or arguments. -/
def trailer? (inner : Rules) : Reader (Option (Expr → Expr)) := do
  if ← acceptsMark "." then
    let label ← name
    return some (.member · label)
  else if ← acceptsMark "[" then
    let index ← inner.index
    return some (.subscript · index)
  else if ← acceptsMark "(" then
    let (positional, keywords) ← inner.arguments true
    return some (.call · positional keywords)
  else return none

/-- A value with what is attached to it. -/
def primaryRule (inner : Rules) : Reader Expr := do
  let first ← inner.atom
  let trailers ← many inner.trailer?
  return trailers.foldl (fun value trailer => trailer value) first

def awaited (inner : Rules) : Reader Expr := do
  if ← acceptsWord "await" then return .await (← inner.primary) else inner.primaryRule

/-- A power; the exponent may have a sign. -/
def powerRule (inner : Rules) : Reader Expr := do
  let base ← inner.awaited
  if ← acceptsMark "**" then return .binary .power base (← inner.factor) else return base

def signs : List (String × UnaryOperator) :=
  [("+", .plus), ("-", .minus), ("~", .invert)]

def factorRule (inner : Rules) : Reader Expr := do
  match ← operatorOf signs with
  | some sign => return .unary sign (← inner.factor)
  | none => inner.powerRule

def term (inner : Rules) : Reader Expr :=
  leftChain [("*", .multiply), ("/", .divide), ("//", .floorDivide), ("%", .remainder),
    ("@", .matrixMultiply)] inner.factorRule

def sum (inner : Rules) : Reader Expr :=
  leftChain [("+", .add), ("-", .subtract)] inner.term

def shift (inner : Rules) : Reader Expr :=
  leftChain [("<<", .shiftLeft), (">>", .shiftRight)] inner.sum

def bitAnd (inner : Rules) : Reader Expr :=
  leftChain [("&", .bitAnd)] inner.shift

def bitXor (inner : Rules) : Reader Expr :=
  leftChain [("^", .bitXor)] inner.bitAnd

def bitOrRule (inner : Rules) : Reader Expr :=
  leftChain [("|", .bitOr)] inner.bitXor

def comparisonMarks : List (String × Comparison) :=
  [("==", .equal), ("!=", .notEqual), ("<", .less), ("<=", .lessEqual), (">", .greater),
    (">=", .greaterEqual)]

/-- A comparison, if one comes next. -/
def comparison? : Reader (Option Comparison) := do
  match ← peek, ← peekSecond with
  | .name "in", _ =>
    skip
    return some .isIn
  | .name "not", .name "in" =>
    skip
    skip
    return some .notIn
  | .name "is", .name "not" =>
    skip
    skip
    return some .isNot
  | .name "is", _ =>
    skip
    return some .is
  | _, _ => operatorOf comparisonMarks

def comparisons (inner : Rules) : Reader Expr := do
  let first ← inner.bitOrRule
  let rest ← many do
    match ← comparison? with
    | some comparison => return some (comparison, ← inner.bitOrRule)
    | none => return none
  return if rest.isEmpty then first else .compare first rest

def inversionRule (inner : Rules) : Reader Expr := do
  if ← acceptsWord "not" then return .unary .negation (← inner.inversion) else inner.comparisons

def disjunctionRule (inner : Rules) : Reader Expr :=
  joinedBy .or "or" (joinedBy .and "and" inner.inversionRule)

/-- Where a parameter stands: before or after the first default, after a star, after a double
star. -/
inductive ParameterStage where
  | plain
  | defaults
  | afterStar
  | closed
  deriving DecidableEq

/-- Reads the parameters of a function up to its closing lexeme. `typed` reads the type that may
follow a name, told whether the name is starred. -/
def parameterList (inner : Rules) (close : LexemeKind) (typed : Bool → Reader Unit) :
    Nat → ParameterStage → Bool → Parameters Expr → Reader (Parameters Expr)
  | 0, _, _, done => return done
  | fuel + 1, stage, bareStar, done => do
    let next := fun (stage : ParameterStage) (bareStar : Bool) (done : Parameters Expr) => do
      if ← acceptsMark "," then inner.parameterList close typed fuel stage bareStar done
      else if (← peek) == close && !bareStar then return done
      else fail
    if (← peek) == close then
      if bareStar then fail else return done
    else if stage == .closed then fail
    else if ← acceptsMark "/" then
      if stage == .afterStar || !done.positionalOnly.isEmpty || done.positional.isEmpty then fail
      else next stage false { done with positionalOnly := done.positional, positional := [] }
    else if ← acceptsMark "**" then
      if bareStar then fail
      else
        let label ← name
        typed false
        next .closed false { done with keywords := some label }
    else if ← acceptsMark "*" then
      if stage == .afterStar then fail
      else if ← seesMark "," then next .afterStar true done
      else
        let label ← name
        typed true
        next .afterStar false { done with rest := some label }
    else
      let label ← name
      typed false
      let default ← if ← acceptsMark "=" then some <$> inner.expression else pure none
      match stage with
      | .afterStar =>
        next .afterStar false { done with keywordOnly := done.keywordOnly ++ [(label, default)] }
      | _ =>
        if default.isNone && stage == .defaults then fail
        else
          next (if default.isSome then .defaults else stage) false
            { done with positional := done.positional ++ [(label, default)] }

def parameters (inner : Rules) (close : LexemeKind) (typed : Bool → Reader Unit) :
    Reader (Parameters Expr) := do
  inner.parameterList close typed ((← get).length + 1) .plain false ⟨[], [], none, [], none⟩

/-- An anonymous function after its word. -/
def lambda (inner : Rules) : Reader Expr := do
  let parameters ← inner.parameters (.mark ":") fun _ => pure ()
  mark ":"
  return .lambda parameters (← inner.expression)

/-- An anonymous function, or a disjunction that may be conditional. -/
def expressionRule (inner : Rules) : Reader Expr := do
  if ← acceptsWord "lambda" then inner.lambda
  else
    let body ← inner.disjunctionRule
    if ← acceptsWord "if" then
      let test ← inner.disjunction
      word "else"
      return .conditional test body (← inner.expression)
    else return body

def namedRule (inner : Rules) : Reader Expr := do
  if ← seesNamed then
    let target ← name
    skip
    return .named (.name target) (← inner.expression)
  else inner.expressionRule

/-- Expressions separated by commas, any of them starred. -/
def starExpressionsRule (inner : Rules) : Reader Expr := do
  let (items, isTuple) ← commaList endsExpressions (inner.starOr inner.expressionRule)
  return tupleOf items isTuple

def yieldRule (inner : Rules) : Reader Expr := do
  word "yield"
  if ← acceptsWord "from" then return .yieldFrom (← inner.expression)
  else if endsExpressions (← peek) then return .yield none
  else return .yield (some (← inner.starExpressions))

/-- All rules, the nested ones given. -/
def step (inner : Rules) : Rules :=
  { expression := inner.expressionRule
    namedExpression := inner.namedRule
    starExpressions := inner.starExpressionsRule
    yieldExpression := inner.yieldRule
    disjunction := inner.disjunctionRule
    inversion := inner.inversionRule
    bitOr := inner.bitOrRule
    factor := inner.factorRule
    primary := inner.primaryRule }

/-- No rules: every one fails. -/
def bottom : Rules :=
  { expression := fail "nested too deeply"
    namedExpression := fail "nested too deeply"
    starExpressions := fail "nested too deeply"
    yieldExpression := fail "nested too deeply"
    disjunction := fail "nested too deeply"
    inversion := fail "nested too deeply"
    bitOr := fail "nested too deeply"
    factor := fail "nested too deeply"
    primary := fail "nested too deeply" }

/-- The rules to a certain depth. -/
def ofDepth (depth : Nat) : Rules :=
  knot bottom step depth

end Rules

/-- Reads a text that is one expression list, as a program would evaluate it. -/
def readExpression (text : List Char) : Except SyntaxFault Expr := do
  let lexemes ← scan text
  let (value, rest) ← (Rules.ofDepth (text.length + 2)).starExpressions lexemes
  match rest.dropWhile fun lexeme => lexeme.kind == .lineEnd with
  | [⟨.ending, _⟩] => return value
  | ⟨_, line⟩ :: _ => throw ⟨"invalid syntax", line⟩
  | [] => return value

end Fieldwise.Source
