import Fieldwise.Proofs.Rendering.LineSemantics
import Mathlib.Data.List.Chain
import Mathlib.Data.List.TakeWhile

/-! # Spelled lines are read back

Statements and headers have one spelling each, a list of pieces: words, symbols and spaces, no two
words side by side. Cutting the spelling gives its words and symbols (`lex_pieces`), and reading
these gives back what was spelled. -/

namespace Fieldwise.Rendered

/-- A text of name characters that is not empty. -/
def IsWord (text : String) : Prop :=
  text.toList ≠ [] ∧ ∀ char ∈ text.toList, isNameChar char

instance (text : String) : Decidable (IsWord text) :=
  decidable_of_iff (text.toList ≠ [] ∧ text.toList.all isNameChar) (by rw [List.all_eq_true]; rfl)

inductive Piece where
  | word (text : String)
  | symbol (char : Char)
  | space
  deriving DecidableEq, Repr

namespace Piece

def chars : Piece → List Char
  | word text => text.toList
  | symbol char => [char]
  | space => [' ']

/-- What reading sees of a piece. -/
def lexeme? : Piece → Option Lexeme
  | word text => some (.word text)
  | symbol char => some (.symbol char)
  | space => none

/-- A word of name characters, a symbol that is none of them, or a space. -/
def Proper : Piece → Prop
  | word text => IsWord text
  | symbol char => isNameChar char = false ∧ char ≠ ' ' ∧ char ≠ '\n'
  | space => True

/-- Two pieces that do not run together. -/
def Apart : Piece → Piece → Prop
  | word _, word _ => False
  | _, _ => True

instance (piece : Piece) : Decidable piece.Proper := by
  cases piece <;> unfold Proper <;> infer_instance

end Piece

theorem not_isNameChar_space : isNameChar ' ' = false := by decide

theorem not_isNameChar_newline : isNameChar '\n' = false := by decide

theorem IsWord.newline_notMem {text : String} (isWord : IsWord text) : '\n' ∉ text.toList := by
  intro inside
  have name := isWord.2 '\n' inside
  rw [not_isNameChar_newline] at name
  cases name

/-! ## Cutting a spelling -/

theorem lexFrom_append {chars : List Char} (all : ∀ char ∈ chars, isNameChar char)
    (word rest : List Char) : lexFrom word (chars ++ rest) = lexFrom (word ++ chars) rest := by
  induction chars generalizing word with
  | nil => rw [List.nil_append, List.append_nil]
  | cons char chars ih =>
    obtain ⟨name, others⟩ := List.forall_mem_cons.1 all
    rw [List.cons_append, lexFrom, if_pos name, ih others, List.append_assoc,
      List.singleton_append]

/-- A word ends before a character that is no part of it. -/
theorem lexFrom_of_stop {rest : List Char} (stop : ∀ char ∈ rest.head?, isNameChar char = false)
    (word : List Char) : lexFrom word rest = closeWord word ++ lex rest := by
  cases rest with
  | nil => exact (List.append_nil _).symm
  | cons char rest =>
    have notName : ¬ isNameChar char := by rw [stop char rfl]; exact Bool.false_ne_true
    have none : closeWord [] = [] := rfl
    rw [lex, lexFrom, lexFrom, if_neg notName, if_neg notName, none]
    split <;> rfl

theorem lex_word {text : String} (isWord : IsWord text) {rest : List Char}
    (stop : ∀ char ∈ rest.head?, isNameChar char = false) :
    lex (text.toList ++ rest) = .word text :: lex rest := by
  rw [lex, lexFrom_append isWord.2, List.nil_append, lexFrom_of_stop stop, closeWord,
    if_neg (by simpa using isWord.1), String.ofList_toList]
  rfl

theorem lex_space (rest : List Char) : lex (' ' :: rest) = lex rest := by
  rw [lex, lexFrom, not_isNameChar_space, if_neg Bool.false_ne_true, if_pos rfl]
  rfl

theorem lex_symbol {char : Char} (notName : isNameChar char = false) (notSpace : char ≠ ' ')
    (rest : List Char) : lex (char :: rest) = .symbol char :: lex rest := by
  rw [lex, lexFrom, notName, if_neg Bool.false_ne_true, if_neg notSpace]
  rfl

/-- What stands after a word is no part of it. -/
theorem Piece.stop_of_apart {text : String} {pieces : List Piece}
    (proper : ∀ piece ∈ pieces, piece.Proper) (apart : (word text :: pieces).IsChain Apart) :
    ∀ char ∈ (pieces.flatMap chars).head?, isNameChar char = false := by
  cases pieces with
  | nil => nofun
  | cons next rest =>
    obtain ⟨nextProper, -⟩ := List.forall_mem_cons.1 proper
    obtain ⟨nextApart, -⟩ := List.isChain_cons_cons.1 apart
    cases next with
    | word _ => exact nextApart.elim
    | symbol char =>
      rintro _ ⟨rfl⟩
      exact nextProper.1
    | space =>
      rintro _ ⟨rfl⟩
      exact not_isNameChar_space

/-- Cutting a spelling gives its words and symbols. -/
theorem lex_pieces {pieces : List Piece} (proper : ∀ piece ∈ pieces, piece.Proper)
    (apart : pieces.IsChain Piece.Apart) :
    lex (pieces.flatMap Piece.chars) = pieces.filterMap Piece.lexeme? := by
  induction pieces with
  | nil => rfl
  | cons piece rest ih =>
    obtain ⟨pieceProper, restProper⟩ := List.forall_mem_cons.1 proper
    have restCut := ih restProper apart.of_cons
    rw [List.flatMap_cons]
    cases piece with
    | word text =>
      rw [Piece.chars, lex_word pieceProper (Piece.stop_of_apart restProper apart), restCut]
      rfl
    | symbol char =>
      rw [Piece.chars, List.singleton_append, lex_symbol pieceProper.1 pieceProper.2.1, restCut]
      rfl
    | space =>
      rw [Piece.chars, List.singleton_append, lex_space, restCut]
      rfl

theorem newline_notMem_pieces {pieces : List Piece} (proper : ∀ piece ∈ pieces, piece.Proper) :
    '\n' ∉ pieces.flatMap Piece.chars := by
  rw [List.mem_flatMap]
  rintro ⟨piece, member, inside⟩
  have pieceProper := proper piece member
  cases piece with
  | word text => exact pieceProper.newline_notMem inside
  | symbol char => exact pieceProper.2.2 (List.mem_singleton.1 inside).symm
  | space => exact absurd inside (by decide)

/-! ## Statements -/

namespace Statement

def pieces : Statement → List Piece
  | assign targetField sourceField =>
    [.word "lhs", .symbol '.', .word targetField, .space, .symbol '=', .space, .word "rhs",
      .symbol '.', .word sourceField]
  | guard sourceField =>
    [.word "if", .space, .word "rhs", .symbol '.', .word sourceField, .space, .word "is", .space,
      .word "not", .space, .word "None", .symbol ':']
  | pass => [.word "pass"]
  | call function =>
    [.word function, .symbol '(', .word "lhs", .symbol ',', .space, .word "rhs", .symbol ')']
  | build type =>
    [.word "lhs", .space, .symbol '=', .space, .word type, .symbol '(', .symbol ')']
  | leave => [.word "return", .space, .word "lhs"]

def names : Statement → List String
  | assign targetField sourceField => [targetField, sourceField]
  | guard sourceField => [sourceField]
  | call function => [function]
  | build type => [type]
  | pass | leave => []

variable {statement : Statement}

theorem proper_pieces (named : ∀ name ∈ statement.names, IsWord name) :
    ∀ piece ∈ statement.pieces, piece.Proper := by
  have keywords : ∀ word ∈ ["lhs", "rhs", "if", "is", "not", "None", "pass", "return"],
      IsWord word := by decide
  have symbols : ∀ piece ∈ [Piece.symbol '.', .symbol '=', .symbol ':', .symbol '(', .symbol ',',
      .symbol ')'], piece.Proper := by decide
  cases statement <;>
    simp_all [names, pieces, Piece.Proper]

theorem apart_pieces (statement : Statement) : statement.pieces.IsChain Piece.Apart := by
  cases statement <;> simp [pieces, Piece.Apart]

theorem ofLexemes_pieces (statement : Statement) :
    ofLexemes (statement.pieces.filterMap Piece.lexeme?) = some statement := by
  cases statement with
  | call function =>
    have words : (call function).pieces.filterMap Piece.lexeme? = [.word function, .symbol '(',
      .word "lhs", .symbol ',', .word "rhs", .symbol ')'] := rfl
    rw [words, ofLexemes]
  | _ => rfl

end Statement

/-! ## Lines of bodies -/

namespace Line

def spell (line : Line) : List Char :=
  List.replicate line.indent ' ' ++ line.statement.pieces.flatMap Piece.chars

/-- The names of a line are words. -/
def Named (line : Line) : Prop :=
  ∀ name ∈ line.statement.names, IsWord name

variable {line : Line}

theorem lex_spaces (count : Nat) (rest : List Char) :
    lex (List.replicate count ' ' ++ rest) = lex rest := by
  induction count with
  | zero => rfl
  | succ count ih => rw [List.replicate_succ, List.cons_append, lex_space, ih]

/-- A statement begins with a word, so the spaces before it are the indentation. -/
theorem not_isIndented_statement (named : line.Named) :
    ∀ char ∈ (line.statement.pieces.flatMap Piece.chars).head?, (char == ' ') = false := by
  obtain ⟨text, rest, whole⟩ : ∃ text rest, line.statement.pieces = .word text :: rest := by
    cases line.statement <;> exact ⟨_, _, rfl⟩
  have proper := Statement.proper_pieces named
  rw [whole] at proper ⊢
  obtain ⟨some_char, name⟩ := proper _ List.mem_cons_self
  obtain ⟨first, others, same⟩ := List.exists_cons_of_ne_nil some_char
  rw [List.flatMap_cons, Piece.chars, same]
  rintro _ ⟨rfl⟩
  rw [beq_eq_false_iff_ne]
  rintro rfl
  have nameSpace := name ' ' (same ▸ List.mem_cons_self)
  rw [not_isNameChar_space] at nameSpace
  cases nameSpace

/-- The words and symbols of a line are those of its statement. -/
theorem lex_spell (named : line.Named) :
    lex line.spell = line.statement.pieces.filterMap Piece.lexeme? := by
  rw [spell, lex_spaces, lex_pieces (Statement.proper_pieces named) line.statement.apart_pieces]

/-- A line is read back from its spelling. -/
theorem ofChars_spell (named : line.Named) : ofChars line.spell = some line := by
  have indentation : (line.spell.takeWhile (· == ' ')).length = line.indent := by
    have spaces : ∀ char ∈ List.replicate line.indent ' ', (char == ' ') = true := by
      intro char member
      rw [List.eq_of_mem_replicate member]
      rfl
    rw [spell, List.takeWhile_append_of_pos spaces]
    cases found : line.statement.pieces.flatMap Piece.chars with
    | nil => simp
    | cons first others =>
      have stop := not_isIndented_statement named first (by rw [found]; rfl)
      simp [stop]
  rw [ofChars, indentation, lex_spell named, Statement.ofLexemes_pieces, Option.map_some]

theorem newline_notMem_spell (named : line.Named) : '\n' ∉ line.spell := by
  rw [spell, List.mem_append]
  rintro (space | inside)
  · exact absurd (List.eq_of_mem_replicate space) (by decide)
  · exact newline_notMem_pieces (Statement.proper_pieces named) inside

theorem isIndented_spell (indented : 0 < line.indent) : isIndented line.spell := by
  obtain ⟨count, same⟩ := Nat.exists_eq_add_of_lt indented
  rw [spell, same, Nat.zero_add, List.replicate_succ]
  rfl

/-- The lines of a body are read back one by one. -/
theorem mapM_ofChars_spell {lines : List Line} (named : ∀ line ∈ lines, line.Named) :
    (lines.map spell).mapM ofChars = some lines := by
  induction lines with
  | nil => rfl
  | cons line rest ih =>
    obtain ⟨lineNamed, restNamed⟩ := List.forall_mem_cons.1 named
    rw [List.map_cons, List.mapM_cons, ofChars_spell lineNamed, ih restNamed]
    rfl

theorem filterMap_ofChars_spell {lines : List Line} (named : ∀ line ∈ lines, line.Named) :
    (lines.map spell).filterMap ofChars = lines := by
  have read : ∀ line ∈ lines, (ofChars ∘ spell) line = some line :=
    fun line member => ofChars_spell (named line member)
  rw [List.filterMap_map, List.filterMap_congr read, List.filterMap_some]

end Line

/-! ## Headers -/

namespace Header

def pieces : Header → List Piece
  | move name target source =>
    [.word "def", .space, .word name, .symbol '(', .word "lhs", .symbol ':', .space, .word target,
      .symbol ',', .space, .word "rhs", .symbol ':', .space, .word source, .symbol ')', .space,
      .symbol '-', .symbol '>', .space, .word "None", .symbol ':']
  | conversion name source target =>
    [.word "def", .space, .word name, .symbol '(', .word "rhs", .symbol ':', .space, .word source,
      .symbol ')', .space, .symbol '-', .symbol '>', .space, .word target, .symbol ':']

def spell (header : Header) : List Char :=
  header.pieces.flatMap Piece.chars

def Named : Header → Prop
  | move name target source | conversion name source target =>
    IsWord name ∧ IsWord target ∧ IsWord source

variable {header : Header}

theorem proper_pieces (named : header.Named) : ∀ piece ∈ header.pieces, piece.Proper := by
  have keywords : ∀ word ∈ ["def", "lhs", "rhs", "None"], IsWord word := by decide
  have symbols : ∀ piece ∈ [Piece.symbol '(', .symbol ':', .symbol ',', .symbol ')', .symbol '-',
      .symbol '>'], piece.Proper := by decide
  cases header <;> simp_all [Named, pieces, Piece.Proper]

theorem apart_pieces (header : Header) : header.pieces.IsChain Piece.Apart := by
  cases header <;> simp [pieces, Piece.Apart]

theorem ofLexemes_pieces (header : Header) :
    ofLexemes (header.pieces.filterMap Piece.lexeme?) = some header := by
  cases header <;> rfl

theorem lex_spell (named : header.Named) :
    lex header.spell = header.pieces.filterMap Piece.lexeme? :=
  lex_pieces (proper_pieces named) header.apart_pieces

/-- A header is read back from its spelling. -/
theorem headerOf?_spell (named : header.Named) : headerOf? header.spell = some header := by
  have margin : isIndented header.spell = false := by
    cases header <;> rfl
  rw [headerOf?, margin, if_neg Bool.false_ne_true, lex_spell named, ofLexemes_pieces]

theorem newline_notMem_spell (named : header.Named) : '\n' ∉ header.spell :=
  newline_notMem_pieces (proper_pieces named)

end Header

/-! ## Functions -/

theorem headerOf?_indented {line : List Char} (indented : isIndented line) :
    headerOf? line = none := by
  rw [headerOf?, if_pos indented]

/-- A line that does not begin with the word of headers is none. -/
theorem headerOf?_of_head? {line : List Char} (other : (lex line).head? ≠ some (.word "def")) :
    headerOf? line = none := by
  rw [headerOf?]
  split
  · rfl
  · unfold Header.ofLexemes
    split <;> simp_all

/-- There is no function among lines that are no headers. -/
theorem functionsOf_eq_nil {lines : List (List Char)}
    (none : ∀ line ∈ lines, headerOf? line = none) : functionsOf lines = [] := by
  induction lines with
  | nil => rfl
  | cons line rest ih =>
    obtain ⟨first, others⟩ := List.forall_mem_cons.1 none
    rw [functionsOf, first]
    exact ih others

theorem functionsOf_indented {lines : List (List Char)}
    (indented : ∀ line ∈ lines, isIndented line) : functionsOf lines = [] :=
  functionsOf_eq_nil fun line member => headerOf?_indented (indented line member)

/-- A header with the indented lines below it is one function. -/
theorem functionsOf_spell {header : Header} (named : header.Named) {body : List (List Char)}
    (indented : ∀ line ∈ body, isIndented line) :
    functionsOf (header.spell :: body) = [⟨header, body⟩] := by
  have whole : body.takeWhile isIndented = body := List.takeWhile_eq_self_iff.2 indented
  rw [functionsOf, Header.headerOf?_spell named]
  dsimp only
  rw [whole, functionsOf_indented indented]

theorem takeWhile_blank {continues : List Char → Bool} (stops : continues [] = false)
    (before after : List (List Char)) :
    (before ++ [] :: after).takeWhile continues = before.takeWhile continues := by
  induction before with
  | nil =>
    rw [List.nil_append, List.takeWhile_cons, stops, if_neg Bool.false_ne_true, List.takeWhile_nil]
  | cons line rest ih => rw [List.cons_append, List.takeWhile_cons, List.takeWhile_cons, ih]

/-- No function reaches over an empty line. -/
theorem functionsOf_append_blank (before after : List (List Char)) :
    functionsOf (before ++ [] :: after) = functionsOf before ++ functionsOf after := by
  induction before with
  | nil => rfl
  | cons line rest ih =>
    rw [List.cons_append, functionsOf, functionsOf, takeWhile_blank rfl, ih]
    cases headerOf? line <;> rfl

end Fieldwise.Rendered
