import Fieldwise.Number.Binary64

/-! # Source trees

The expressions of a module in full, since any of them can stand in a declared type, and of its
statements those that declare record types: class definitions, annotated names and assignments. -/

namespace Fieldwise.Source

/-- A literal value. A text is kept as code points, since an escape can name half of a surrogate
pair; `marked` remembers a leading `u`. -/
inductive Constant where
  | none
  | flag (value : Bool)
  | ellipsis
  | whole (value : Nat)
  | real (value : Binary64)
  | imaginary (value : Binary64)
  | text (codes : List Nat) (marked : Bool)
  | bytes (value : List UInt8)
  deriving DecidableEq, Repr

/-- The connectives, of which one joins any number of operands. -/
inductive Connective where
  | and
  | or
  deriving DecidableEq, Repr

inductive BinaryOperator where
  | add | subtract | multiply | matrixMultiply | divide | remainder | floorDivide | power
  | shiftLeft | shiftRight | bitOr | bitXor | bitAnd
  deriving DecidableEq, Repr

inductive UnaryOperator where
  | invert | negation | plus | minus
  deriving DecidableEq, Repr

inductive Comparison where
  | equal | notEqual | less | lessEqual | greater | greaterEqual | is | isNot | isIn | notIn
  deriving DecidableEq, Repr

/-- The parameters of an anonymous function; `rest` and `keywords` take what is left over. -/
structure Parameters (α : Type) where
  positionalOnly : List (String × Option α)
  positional : List (String × Option α)
  rest : Option String
  keywordOnly : List (String × Option α)
  keywords : Option String
  deriving Repr

structure Clause (α : Type) where
  isAsync : Bool
  target : α
  iterable : α
  conditions : List α
  deriving Repr

inductive Collection where
  | list
  | set
  | generator
  deriving DecidableEq, Repr

inductive Expr where
  | name (text : String)
  | constant (value : Constant)
  | member (value : Expr) (name : String)
  | subscript (value index : Expr)
  | slice (lower upper step : Option Expr)
  | call (function : Expr) (arguments : List Expr) (keywords : List (Option String × Expr))
  | starred (value : Expr)
  | tuple (items : List Expr)
  | list (items : List Expr)
  | set (items : List Expr)
  | dict (entries : List (Option Expr × Expr))
  | connected (connective : Connective) (operands : List Expr)
  | binary (operator : BinaryOperator) (left right : Expr)
  | unary (operator : UnaryOperator) (operand : Expr)
  | compare (first : Expr) (others : List (Comparison × Expr))
  | conditional (test body otherwise : Expr)
  | lambda (parameters : Parameters Expr) (body : Expr)
  | named (target value : Expr)
  | comprehension (collection : Collection) (element : Expr) (clauses : List (Clause Expr))
  | dictComprehension (key value : Expr) (clauses : List (Clause Expr))
  | await (value : Expr)
  | yield (value : Option Expr)
  | yieldFrom (value : Expr)
  | template (parts : List Expr)
  | field (value : Expr) (conversion : Option Char) (format : Option Expr)
  deriving Repr, Inhabited

/-- A class definition: the line of its keyword, its name, what stands before and behind the name,
and its body `β`. -/
structure ClassHead where
  line : Nat
  name : String
  decorators : List Expr
  bases : List Expr
  deriving Repr

/-- A statement, as far as it can declare a record type or one of its fields. -/
inductive Statement where
  | classDefinition (head : ClassHead) (body : List Statement)
  | annotated (target type : Expr) (value : Option Expr)
  | assigned (targets : List Expr) (value : Expr)
  | other
  deriving Repr, Inhabited

end Fieldwise.Source
