import Fieldwise.Source.Pattern

/-! # The grammar of modules

All statements of a module are read; those that cannot declare record types or fields are checked
and forgotten. `readModule` yields the statements at the outermost level. -/

namespace Fieldwise.Source

open Reader

namespace Statement

/-- What may be assigned: a yield or expressions. -/
def assignable (rules : Rules) : Reader Expr := do
  if ← seesWord "yield" then rules.yieldExpression else rules.starExpressions

/-- The operators that change a place. -/
def updateMarks : List String :=
  ["+=", "-=", "*=", "/=", "//=", "%=", "@=", "&=", "|=", "^=", "<<=", ">>=", "**="]

/-- The values after equality signs: further targets, and the value at the end. -/
def assignedValues (rules : Rules) : Nat → Reader (List Expr × Expr)
  | 0 => fail
  | fuel + 1 => do
    let value ← assignable rules
    if ← acceptsMark "=" then
      if value.isTarget true then
        let (targets, last) ← assignedValues rules fuel
        return (value :: targets, last)
      else fail "cannot assign to an expression"
    else return ([], value)

/-- An assignment in one of its forms, or an expression. -/
def assignment (rules : Rules) : Reader Statement := do
  if ← seesWord "yield" then
    let _ ← rules.yieldExpression
    return .other
  else
    let first ← rules.starExpressions
    if ← acceptsMark ":" then
      if !first.isPlace then fail "only a single place can be annotated"
      else
        let type ← rules.expression
        let value ← if ← acceptsMark "=" then some <$> assignable rules else pure none
        return .annotated first type value
    else if ← acceptsMark "=" then
      if first.isTarget true then
        let (targets, value) ← assignedValues rules ((← get).length + 1)
        return .assigned (first :: targets) value
      else fail "cannot assign to an expression"
    else
      match ← peek with
      | .mark text =>
        if text ∈ updateMarks then
          if first.isPlace then
            skip
            let _ ← assignable rules
            return .other
          else fail "cannot assign to an expression"
        else return .other
      | _ => return .other

def endsStatement : LexemeKind → Bool
  | .lineEnd => true
  | .ending => true
  | .mark ";" => true
  | _ => false

def dottedName : Reader Unit := do
  let _ ← name
  let _ ← Pattern.moreSegments

/-- A new name for what is imported, if there is one. -/
def newName : Reader Unit := do
  if ← acceptsWord "as" then
    let _ ← name

def importedNames (ends : LexemeKind → Bool) : Reader (List Unit × Bool) :=
  commaList ends do
    let _ ← name
    newName

/-- The dots before the module of an import, and how many there are. -/
def leadingDots : Reader (List Unit) :=
  many do
    if (← acceptsMark ".") || (← acceptsMark "...") then return some () else return none

/-- An import of names from a module, after its first word. -/
def importFrom : Reader Unit := do
  let dots ← leadingDots
  if dots.isEmpty || !(← seesWord "import") then dottedName
  word "import"
  if ← acceptsMark "*" then pure ()
  else if ← acceptsMark "(" then
    let _ ← importedNames (· == .mark ")")
    mark ")"
  else
    let _ ← importedNames fun _ => false

/-- Whether places can be deleted: they can be assigned to, and none is starred. -/
def isDeletable : Expr → Bool
  | .name _ => true
  | .member _ _ => true
  | .subscript _ _ => true
  | .tuple items => all items
  | .list items => all items
  | _ => false
where
  /-- Every item can be deleted. -/
  all : List Expr → Bool
    | [] => true
    | first :: rest => isDeletable first && all rest

/-- A statement that starts with a reserved word and stays on its line; `none` if no such word comes
next. -/
def wordStatement (rules : Rules) : Reader (Option Statement) := do
  let done : Reader (Option Statement) := pure (some .other)
  match ← peek with
  | .name "pass" => skip; done
  | .name "break" => skip; done
  | .name "continue" => skip; done
  | .name "return" =>
    skip
    if !endsStatement (← peek) then
      let _ ← rules.starExpressions
    done
  | .name "raise" =>
    skip
    if !endsStatement (← peek) then
      let _ ← rules.expression
      if ← acceptsWord "from" then
        let _ ← rules.expression
    done
  | .name "global" => skip; let _ ← commaList (fun _ => false) name; done
  | .name "nonlocal" => skip; let _ ← commaList (fun _ => false) name; done
  | .name "del" =>
    skip
    let places ← rules.starExpressions
    if isDeletable places then done else fail "cannot delete an expression"
  | .name "assert" =>
    skip
    let _ ← rules.expression
    if ← acceptsMark "," then
      let _ ← rules.expression
    done
  | .name "import" =>
    skip
    let _ ← commaList (fun _ => false) do
      dottedName
      newName
    done
  | .name "from" => skip; importFrom; done
  | _ => return none

def simple (rules : Rules) : Reader Statement := do
  match ← wordStatement rules with
  | some statement => return statement
  | none => assignment rules

/-- Further statements of a line, each after a semicolon. -/
def moreSimple (rules : Rules) : Nat → Reader (List Statement)
  | 0 => return []
  | fuel + 1 => do
    if ← acceptsMark ";" then
      if (← peek) == .lineEnd then return []
      else
        let first ← simple rules
        return first :: (← moreSimple rules fuel)
    else return []

def simpleLine (rules : Rules) : Reader (List Statement) := do
  let first ← simple rules
  let rest ← moreSimple rules (← get).length
  expect .lineEnd
  return first :: rest

/-- The body of a compound statement: indented statements, or statements on the same line. -/
def block (rules : Rules) (statement : Reader (List Statement)) : Reader (List Statement) := do
  if ← accepts .lineEnd then
    expect .indent
    let first ← statement
    let rest ← many do
      if (← peek) == .dedent || (← peek) == .ending then return none
      else return some (← statement)
    expect .dedent
    return first ++ rest.flatten
  else simpleLine rules

def body (rules : Rules) (statement : Reader (List Statement)) : Reader (List Statement) := do
  mark ":"
  block rules statement

def elseBody (rules : Rules) (statement : Reader (List Statement)) : Reader Unit := do
  if ← acceptsWord "else" then
    let _ ← body rules statement

def branches (rules : Rules) (statement : Reader (List Statement)) : Reader Unit := do
  let _ ← many do
    if ← acceptsWord "elif" then
      let _ ← rules.namedExpression
      let _ ← body rules statement
      return some ()
    else return none
  elseBody rules statement

/-- A loop over items, after its word. -/
def forLoop (rules : Rules) (statement : Reader (List Statement)) : Reader Unit := do
  let _ ← rules.targets
  word "in"
  let _ ← rules.starExpressions
  let _ ← body rules statement
  elseBody rules statement

/-- A handler of exceptions, after its word. It is starred if all others are. -/
def handler (rules : Rules) (statement : Reader (List Statement)) : Reader Bool := do
  let starred ← acceptsMark "*"
  if starred || !(← seesMark ":") then
    let _ ← rules.expression
    newName
  let _ ← body rules statement
  return starred

def handlers (rules : Rules) (statement : Reader (List Statement)) : Reader (List Bool) :=
  many do
    if ← acceptsWord "except" then return some (← handler rules statement) else return none

/-- What follows the body of a `try`. -/
def tryTail (rules : Rules) (statement : Reader (List Statement)) : Reader Unit := do
  let found ← handlers rules statement
  if found.any (fun starred => starred) && !found.all (fun starred => starred) then
    fail "handlers of both kinds cannot be mixed"
  unless found.isEmpty do elseBody rules statement
  if ← acceptsWord "finally" then
    let _ ← body rules statement
  else if found.isEmpty then fail

/-- A context with the place that holds it, if there is one. -/
def contextItem (rules : Rules) : Reader Unit := do
  let _ ← rules.expression
  if ← acceptsWord "as" then
    let target ← rules.targetItem
    unless target.isTarget true do fail "cannot assign to an expression"

/-- The contexts of a `with` in parentheses, up to the colon. -/
def enclosedContexts (rules : Rules) : Reader Unit := do
  mark "("
  let _ ← commaList (· == .mark ")") (contextItem rules)
  mark ")"
  mark ":"

/-- The contexts of a `with`, up to the colon. -/
def openContexts (rules : Rules) : Reader Unit := do
  let _ ← commaList (fun _ => false) (contextItem rules)
  mark ":"

def withBlock (rules : Rules) (statement : Reader (List Statement)) : Reader Unit := do
  orElse (enclosedContexts rules) (openContexts rules)
  let _ ← block rules statement

/-- The type of a parameter; that of a starred one may be starred itself. -/
def parameterType (rules : Rules) (starred : Bool) : Reader Unit := do
  if ← acceptsMark ":" then
    if starred then
      let _ ← rules.starOr rules.expression
    else
      let _ ← rules.expression

def functionDefinition (rules : Rules) (statement : Reader (List Statement)) : Reader Unit := do
  let _ ← name
  mark "("
  let _ ← rules.parameters (.mark ")") (parameterType rules)
  mark ")"
  if ← acceptsMark "->" then
    let _ ← rules.expression
  let _ ← body rules statement

def classStatement (rules : Rules) (statement : Reader (List Statement))
    (decorators : List Expr) : Reader Statement := do
  let line ← line
  word "class"
  let name ← name
  let bases ← if ← acceptsMark "(" then Prod.fst <$> rules.arguments false else pure []
  let body ← body rules statement
  return .classDefinition ⟨line, name, decorators, bases⟩ body

def decorators (rules : Rules) : Reader (List Expr) :=
  many do
    if ← acceptsMark "@" then
      let decorator ← rules.namedExpression
      expect .lineEnd
      return some decorator
    else return none

/-- A case of a distinction. -/
def caseBlock (rules : Rules) (pattern : Reader Unit) (statement : Reader (List Statement)) :
    Reader Unit := do
  word "case"
  Pattern.topLevel pattern
  if ← acceptsWord "if" then
    let _ ← rules.namedExpression
  let _ ← body rules statement

/-- The head of a case distinction, up to its first case. -/
def matchHead (rules : Rules) : Reader Unit := do
  word "match"
  let (items, isTuple) ← commaList (· == .mark ":") rules.starNamed
  match items, isTuple with
  | [.starred _], false => fail
  | _, _ =>
    mark ":"
    expect .lineEnd
    expect .indent

def cases (rules : Rules) (pattern : Reader Unit) (statement : Reader (List Statement)) :
    Reader Unit := do
  caseBlock rules pattern statement
  let _ ← many do
    if ← seesWord "case" then
      caseBlock rules pattern statement
      return some ()
    else return none
  expect .dedent

/-- Whether a case distinction comes next: its head has to be complete. -/
def seesMatch (rules : Rules) : Reader Bool := do
  if ← seesWord "match" then
    let lexemes ← get
    match matchHead rules lexemes with
    | .ok _ => return true
    | .error _ => return false
  else return false

/-- A definition of a function or a class, given its decorators. -/
def definition? (rules : Rules) (statement : Reader (List Statement)) (decorators : List Expr) :
    Reader (Option Statement) := do
  match ← peek, ← peekSecond with
  | .name "def", _ =>
    skip
    functionDefinition rules statement
    return some .other
  | .name "async", .name "def" =>
    skip
    skip
    functionDefinition rules statement
    return some .other
  | .name "class", _ => return some (← classStatement rules statement decorators)
  | _, _ => if decorators.isEmpty then return none else fail

/-- A compound statement; `none` if none comes next. -/
def compound? (rules : Rules) (pattern : Reader Unit) (statement : Reader (List Statement)) :
    Reader (Option Statement) := do
  let done : Reader (Option Statement) := pure (some .other)
  let decorators ← decorators rules
  match ← definition? rules statement decorators with
  | some definition => return some definition
  | none =>
    match ← peek, ← peekSecond with
    | .name "if", _ =>
      skip
      let _ ← rules.namedExpression
      let _ ← body rules statement
      branches rules statement
      done
    | .name "while", _ =>
      skip
      let _ ← rules.namedExpression
      let _ ← body rules statement
      elseBody rules statement
      done
    | .name "for", _ => skip; forLoop rules statement; done
    | .name "async", .name "for" => skip; skip; forLoop rules statement; done
    | .name "try", _ =>
      skip
      let _ ← body rules statement
      tryTail rules statement
      done
    | .name "with", _ => skip; withBlock rules statement; done
    | .name "async", .name "with" => skip; skip; withBlock rules statement; done
    | _, _ =>
      if ← seesMatch rules then
        matchHead rules
        cases rules pattern statement
        done
      else return none

/-- The statements that start here: a compound one, or those of a line. -/
def step (rules : Rules) (pattern : Reader Unit) (statement : Reader (List Statement)) :
    Reader (List Statement) := do
  match ← compound? rules pattern statement with
  | some statement => return [statement]
  | none => simpleLine rules

/-- The statements of a module up to its end. -/
def all (statement : Reader (List Statement)) : Reader (List Statement) := do
  let statements ← many do
    if (← peek) == .ending then return none else return some (← statement)
  expect .ending
  return statements.flatten

end Statement

/-- Why the text of a module cannot be read. -/
inductive ModuleError where
  | nullCharacter
  | fault (fault : SyntaxFault)
  deriving DecidableEq, Repr

def ModuleError.message : ModuleError → String
  | nullCharacter => "source code string cannot contain null bytes"
  | fault found => found.message

def readModule (text : String) : Except ModuleError (List Statement) := do
  let chars := text.toList
  if chars.contains '\x00' then throw .nullCharacter
  let read := do
    let lexemes ← scan chars
    let depth := chars.length + 2
    let rules := Rules.ofDepth depth
    let statement := knot (fail "nested too deeply")
      (Statement.step rules (Pattern.ofDepth rules depth)) depth
    let (statements, _) ← Statement.all statement lexemes
    return statements
  read.mapError .fault

end Fieldwise.Source
