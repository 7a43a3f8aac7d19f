import Fieldwise.Application
import Fieldwise.Text.Identifier

/-! # What a rendered module does

The functions of a rendered module run line by line. Their meaning is given to the text alone: a line
is cut into words and other characters, a header at the left margin opens a function, and the
indented lines below it are its body. In a body `lhs.F = rhs.G` assigns, `if rhs.G is not None:`
guards the one line below it that is indented deeper, `pass` does nothing, `M(lhs, rhs)` runs the
function `M` of the same module, `lhs = T()` builds the default record of `T`, and `return lhs` ends
the run. A line that is none of these, or that stands too far in or out, has no meaning. -/

namespace Fieldwise.Rendered

def isNameChar (char : Char) : Bool :=
  Text.isIdentifierStart char || Text.isIdentifierPart char

/-- A word of a line, or one of the characters between words. -/
inductive Lexeme where
  | word (text : String)
  | symbol (char : Char)
  deriving DecidableEq, Repr

/-- The word that ends here, if there is one. -/
def closeWord (word : List Char) : List Lexeme :=
  if word.isEmpty then [] else [.word (String.ofList word)]

/-- Cuts a line after the beginning of a word; spaces only separate. -/
def lexFrom (word : List Char) : List Char → List Lexeme
  | [] => closeWord word
  | char :: rest =>
    if isNameChar char then lexFrom (word ++ [char]) rest
    else if char = ' ' then closeWord word ++ lexFrom [] rest
    else closeWord word ++ .symbol char :: lexFrom [] rest

def lex (line : List Char) : List Lexeme :=
  lexFrom [] line

/-- What a line of a body says. -/
inductive Statement where
  | assign (targetField sourceField : String)
  | guard (sourceField : String)
  | pass
  | call (function : String)
  | build (type : String)
  | leave
  deriving DecidableEq, Repr

def Statement.ofLexemes : List Lexeme → Option Statement
  | [.word "pass"] => some .pass
  | [.word "return", .word "lhs"] => some .leave
  | [.word "lhs", .symbol '=', .word type, .symbol '(', .symbol ')'] => some (.build type)
  | [.word function, .symbol '(', .word "lhs", .symbol ',', .word "rhs", .symbol ')'] =>
    some (.call function)
  | [.word "lhs", .symbol '.', .word targetField, .symbol '=', .word "rhs", .symbol '.',
      .word sourceField] => some (.assign targetField sourceField)
  | [.word "if", .word "rhs", .symbol '.', .word sourceField, .word "is", .word "not",
      .word "None", .symbol ':'] => some (.guard sourceField)
  | _ => none

structure Line where
  indent : Nat
  statement : Statement
  deriving DecidableEq, Repr

def Line.ofChars (line : List Char) : Option Line :=
  (Statement.ofLexemes (lex line)).map fun statement =>
    ⟨(line.takeWhile (· == ' ')).length, statement⟩

/-- The first line of a function: one that changes a given target, or one that builds its own. -/
inductive Header where
  | move (name target source : String)
  | conversion (name source target : String)
  deriving DecidableEq, Repr

namespace Header

def name : Header → String
  | move name _ _ => name
  | conversion name _ _ => name

def takesTarget : Header → Bool
  | move _ _ _ => true
  | conversion _ _ _ => false

def ofLexemes : List Lexeme → Option Header
  | [.word "def", .word name, .symbol '(', .word "lhs", .symbol ':', .word target, .symbol ',',
      .word "rhs", .symbol ':', .word source, .symbol ')', .symbol '-', .symbol '>', .word "None",
      .symbol ':'] => some (.move name target source)
  | [.word "def", .word name, .symbol '(', .word "rhs", .symbol ':', .word source, .symbol ')',
      .symbol '-', .symbol '>', .word target, .symbol ':'] => some (.conversion name source target)
  | _ => none

end Header

/-- A function of a module: its header and the lines of its body as they stand there. -/
structure Function where
  header : Header
  body : List (List Char)
  deriving DecidableEq, Repr

/-- A line that begins with a space. -/
def isIndented (line : List Char) : Bool :=
  line.head? == some ' '

/-- The header that a line is, if it stands at the left margin. -/
def headerOf? (line : List Char) : Option Header :=
  if isIndented line then none else Header.ofLexemes (lex line)

def functionsOf : List (List Char) → List Function
  | [] => []
  | line :: rest =>
    match headerOf? line with
    | some header => ⟨header, rest.takeWhile isIndented⟩ :: functionsOf rest
    | none => functionsOf rest

def functions (text : String) : List Function :=
  functionsOf (text.toList.splitOn '\n')

/-- The function that a name stands for: the last one of that name. -/
def function? (functions : List Function) (name : String) : Option Function :=
  functions.reverse.find? fun function => function.header.name == name

/-- Where a statement leads: to the next line with some `lhs`, or to the end of the function. -/
inductive Progress where
  | next (lhs : Option Record)
  | stop (applied : Applied)

/-- What a body can refer to: the record that is read, which may depend on the state of `lhs` because
it may be the same record, the default records of types, and the other functions. -/
structure Surroundings where
  rhs : Record → Record
  default : String → Record
  call : String → Record → Option Applied

/-- Carries out a statement other than a guard. -/
def Statement.step (around : Surroundings) (lhs : Option Record) : Statement → Option Progress
  | pass => some (.next lhs)
  | build type => some (.next (some (around.default type)))
  | leave => lhs.map fun record => .stop ⟨record, none⟩
  | assign targetField sourceField => lhs.map fun record =>
    match (around.rhs record).read sourceField with
    | .error error => .stop ⟨record, some error⟩
    | .ok value =>
      match record.write targetField value with
      | .error error => .stop ⟨record, some error⟩
      | .ok next => .next (some next)
  | call function => do
    let record ← lhs
    let applied ← around.call function record
    match applied.error with
    | none => return .next (some applied.target)
    | some _ => return .stop applied
  | guard _ => none

/-- Runs lines that stand at one indentation, but for those that are guarded. -/
def runLines (around : Surroundings) (indent : Nat) (lhs : Option Record) :
    List Line → Option Applied
  | [] => lhs.map fun record => ⟨record, none⟩
  | ⟨found, .guard sourceField⟩ :: guarded :: rest =>
    if found = indent ∧ indent < guarded.indent then do
      let record ← lhs
      match (around.rhs record).read sourceField with
      | .error error => return ⟨record, some error⟩
      | .ok value =>
        if value.isPresent then
          match ← guarded.statement.step around lhs with
          | .next lhs => runLines around indent lhs rest
          | .stop applied => return applied
        else runLines around indent lhs rest
    else none
  | ⟨found, statement⟩ :: rest =>
    if found = indent then do
      match ← statement.step around lhs with
      | .next lhs => runLines around indent lhs rest
      | .stop applied => return applied
    else none

/-- Runs the function of a name, on `lhs` if it is given one. `depth` is how many calls may be open
at once. -/
def run (functions : List Function) (rhs : Record → Record) (default : String → Record) :
    (depth : Nat) → (name : String) → (lhs : Option Record) → Option Applied
  | 0, _, _ => none
  | depth + 1, name, lhs => do
    let function ← function? functions name
    let lines ← function.body.mapM Line.ofChars
    let first ← lines.head?
    if function.header.takesTarget = lhs.isSome then
      let around : Surroundings :=
        ⟨rhs, default, fun callee record => run functions rhs default depth callee (some record)⟩
      runLines around first.indent lhs lines
    else none

end Fieldwise.Rendered
