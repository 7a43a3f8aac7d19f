import Fieldwise.Proofs.Rendering.Agreement
import Mathlib.Data.List.DropRight

/-! # Legal headers

The header of a rendered function can be compiled if its names are identifiers and none is reserved.
The names of schemas are of that kind, and so is the name of a function that begins with no digit:
it consists of lower-case letters, digits and underscores, and no reserved word has an underscore.
A conversion puts the name of its target in front, so its header is legal unless a digit is the first
ASCII letter or digit of that name (`Generation.legal_functions`). -/

namespace Fieldwise

open Rendered

/-! ## The characters of lower-snake forms -/

namespace Naming

/-- A character of lower-snake words, or the underscore between them. -/
def isSnakeChar (char : Char) : Bool :=
  isWordChar char || char == '_'

/-- Whether a digit comes first among the ASCII letters and digits of a name. -/
def beginsWithDigit (name : String) : Bool :=
  (name.toList.find? isKept).any isDigit

/-- What holds of the kept characters and the underscore among the first 128 holds of all. -/
theorem forall_kept {P : Char → Prop}
    (ascii : ∀ number < 128, isKept (Char.ofNat number) ∨ Char.ofNat number = '_' →
      P (Char.ofNat number)) {char : Char} (kept : isKept char ∨ char = '_') : P char := by
  have holds := ascii char.toNat (toNat_lt_of_isKept kept)
  rw [Char.ofNat_toNat] at holds
  exact holds kept

theorem isSnakeChar_toLower {char : Char} (kept : isKept char ∨ char = '_') :
    isSnakeChar char.toLower :=
  forall_kept (P := fun char => isSnakeChar char.toLower) (by decide) kept

theorem isDigit_toLower {char : Char} (kept : isKept char ∨ char = '_') :
    isDigit char.toLower = isDigit char :=
  forall_kept (P := fun char => isDigit char.toLower = isDigit char) (by decide) kept

theorem isKept_of_isSnakeChar {char : Char} (snake : isSnakeChar char) :
    isKept char ∨ char = '_' := by
  rw [isSnakeChar, Bool.or_eq_true, beq_iff_eq] at snake
  exact snake.imp_left fun word => by rw [isKept, word, Bool.true_or]

theorem isIdentifierPart_of_isSnakeChar {char : Char} (snake : isSnakeChar char) :
    Text.isIdentifierPart char :=
  forall_kept (P := fun char => isSnakeChar char → Text.isIdentifierPart char) (by decide)
    (isKept_of_isSnakeChar snake) snake

/-- Identifiers of these characters may begin with all of them but the digits. -/
theorem isIdentifierStart_of_isSnakeChar {char : Char} (snake : isSnakeChar char) :
    Text.isIdentifierStart char = !isDigit char :=
  forall_kept (P := fun char => isSnakeChar char → Text.isIdentifierStart char = !isDigit char)
    (by decide) (isKept_of_isSnakeChar snake) snake

theorem isSnakeChar_of_mem_lowerSnake (name : String) :
    ∀ char ∈ (lowerSnake name).toList, isSnakeChar char := by
  rw [lowerSnake, String.toList_ofList]
  intro char member
  obtain ⟨kept, inside, rfl⟩ := List.mem_map.1 member
  exact isSnakeChar_toLower (kept_of_mem_joined _ _ kept (mem_of_mem_trimmed inside))

/-! ## The first character of a lower-snake form -/

theorem find?_isKept_spaced (chars : List Char) :
    (spaced chars).find? isKept = chars.find? isKept := by
  have gap : isKept '_' = false := by decide
  fun_induction spaced chars with
  | case1 left right rest boundary ih =>
    rw [List.find?_cons, List.find?_cons, List.find?_cons (a := left), gap, ih]
  | case2 left right rest boundary ih =>
    rw [List.find?_cons, List.find?_cons (a := left), ih]
  | case3 chars => rfl

theorem find?_isKept_joined (inGap : Bool) (chars : List Char) :
    (joined inGap chars).find? isKept = chars.find? isKept := by
  fun_induction joined inGap chars with
  | case1 => rfl
  | case2 inGap char rest kept ih =>
    rw [List.find?_cons_of_pos kept, List.find?_cons_of_pos kept]
  | case3 char rest dropped ih =>
    rw [ih, List.find?_cons_of_neg dropped]
  | case4 inGap char rest dropped first ih =>
    rw [List.find?_cons_of_neg (by decide), ih, List.find?_cons_of_neg dropped]

/-- Without the underscores at its ends a text begins with the first character that is kept. -/
theorem head?_trimmed {chars : List Char} (kept : ∀ char ∈ chars, isKept char ∨ char = '_') :
    (trimmed chars).head? = chars.find? isKept := by
  induction chars with
  | nil => rfl
  | cons char rest ih =>
    obtain ⟨first, others⟩ := List.forall_mem_cons.1 kept
    by_cases underscore : char = '_'
    · subst underscore
      exact ih others
    · have apart : (char == '_') = false := beq_eq_false_iff_ne.2 underscore
      have whole : trimmed (char :: rest) = (char :: rest).rdropWhile (· == '_') := by
        rw [trimmed, List.dropWhile_cons, apart]
        rfl
      have some_char : trimmed (char :: rest) ≠ [] := by
        rw [whole, ne_eq, List.rdropWhile_eq_nil_iff]
        exact fun all => underscore (beq_iff_eq.1 (all char List.mem_cons_self))
      obtain ⟨dropped, same⟩ : trimmed (char :: rest) <+: char :: rest := by
        rw [whole]
        exact List.rdropWhile_prefix ..
      rw [List.find?_cons_of_pos (first.resolve_right underscore),
        ← List.head?_append_of_ne_nil _ some_char, same]
      rfl

/-- A lower-snake form begins with the first ASCII letter or digit of its name. -/
theorem head?_lowerSnake (name : String) :
    (lowerSnake name).toList.head? = (name.toList.find? isKept).map Char.toLower := by
  rw [lowerSnake, String.toList_ofList, List.head?_map, head?_trimmed (kept_of_mem_joined _ _),
    find?_isKept_joined, find?_isKept_spaced]

theorem any_isDigit_head?_lowerSnake (name : String) :
    (lowerSnake name).toList.head?.any isDigit = beginsWithDigit name := by
  rw [head?_lowerSnake, beginsWithDigit]
  cases first : name.toList.find? isKept with
  | none => rfl
  | some char => exact isDigit_toLower (.inl (List.find?_some first))

/-! ## Names of these characters -/

/-- A name of these characters is an identifier unless it is empty or begins with a digit. -/
theorem isIdentifier_of_snake {text : String} (snake : ∀ char ∈ text.toList, isSnakeChar char)
    (some_char : text.toList ≠ []) :
    Text.isIdentifier text = !text.toList.head?.any isDigit := by
  obtain ⟨first, rest, same⟩ := List.exists_cons_of_ne_nil some_char
  rw [same] at snake
  obtain ⟨firstSnake, restSnake⟩ := List.forall_mem_cons.1 snake
  have parts : rest.all Text.isIdentifierPart :=
    List.all_eq_true.2 fun char member => isIdentifierPart_of_isSnakeChar (restSnake char member)
  rw [Text.isIdentifier, same]
  dsimp only
  rw [parts, Bool.and_true, isIdentifierStart_of_isSnakeChar firstSnake]
  rfl

/-- No reserved word has an underscore. -/
theorem not_isReservedWord_of_underscore {text : String} (underscore : '_' ∈ text.toList) :
    Text.isReservedWord text = false := by
  have plain : ∀ word ∈ Text.reservedWords, '_' ∉ word.toList := by decide
  rw [Text.isReservedWord, ← Bool.not_eq_true, List.contains_iff_mem]
  exact fun reserved => plain text reserved underscore

end Naming

/-! ## Function names -/

namespace Operation

variable (operation : Operation)

/-- A conversion to a schema whose first ASCII letter or digit is a digit. -/
def BeginsWithDigit : Prop :=
  operation.kind = .convert ∧ Naming.beginsWithDigit operation.targetSchema

theorem isSnakeChar_of_mem_functionName :
    ∀ char ∈ (operation.functionName {}).toList, Naming.isSnakeChar char := by
  have snake : ∀ word ∈ ["move_corresponding", "from", "_", "_into_"],
      word.toList.all Naming.isSnakeChar := by decide
  have words := fun word member => List.all_eq_true.1 (snake word member)
  have source := Naming.isSnakeChar_of_mem_lowerSnake operation.sourceSchema
  have target := Naming.isSnakeChar_of_mem_lowerSnake operation.targetSchema
  rw [functionName]
  cases operation.kind <;>
    simp only [String.toList_append, List.forall_mem_append] <;>
    simp_all

/-- A move has a word of its own in front, a conversion the name of its target. -/
theorem any_isDigit_head?_functionName :
    (operation.functionName {}).toList.head?.any Naming.isDigit ↔ operation.BeginsWithDigit := by
  have letter : Naming.isDigit 'm' = false := by decide
  have underscore : Naming.isDigit '_' = false := by decide
  rw [functionName, BeginsWithDigit, ← Naming.any_isDigit_head?_lowerSnake]
  cases operation.kind with
  | move => simp [String.toList_append, letter]
  | convert =>
    cases front : (Naming.lowerSnake operation.targetSchema).toList <;>
      simp [String.toList_append, front, underscore]

/-- The name of a function is an identifier and no reserved word unless it begins with a digit. -/
theorem isFieldName_functionName_iff :
    Text.isFieldName (operation.functionName {}) ↔ ¬ operation.BeginsWithDigit := by
  have underscore := operation.underscore_mem_functionName {}
  rw [Text.isFieldName, Naming.not_isReservedWord_of_underscore underscore, Bool.not_false,
    Bool.and_true, Naming.isIdentifier_of_snake operation.isSnakeChar_of_mem_functionName
      (List.ne_nil_of_mem underscore), Bool.not_eq_true', ← Bool.not_eq_true,
    any_isDigit_head?_functionName]

end Operation

/-- A header that can be compiled: all its names are identifiers and no reserved words. -/
def Rendered.Header.Legal : Header → Prop
  | .move name target source | .conversion name source target =>
    Text.isFieldName name ∧ Text.isFieldName target ∧ Text.isFieldName source

/-- The header of a function between well-named schemas is as legal as its name. -/
theorem Operation.legal_header_iff {settings : Settings} {operation : Operation}
    (target : Text.isFieldName operation.targetSchema)
    (source : Text.isFieldName operation.sourceSchema) :
    (operation.header settings).Legal ↔ Text.isFieldName (operation.functionName settings) := by
  rw [header]
  cases operation.kind <;> simp [Header.Legal, target, source]

variable {options : GenerationOptions} {schemas : List Schema} {generation : Generation}

/-- The function of an operation between well-named schemas has a legal name unless it is a conversion
to a schema that begins with a digit. In a rendered module the headers of exactly these functions are
legal. -/
theorem Generation.legal_functions (wellNamed : ∀ schema ∈ schemas, schema.WellNamed)
    (generated : Scope.generate options schemas = .ok generation) :
    (∀ operation ∈ generation.operations,
      Text.isFieldName (operation.functionName {}) ↔ ¬ operation.BeginsWithDigit) ∧
    ∀ origin text, generation.render {} origin = .ok text →
      ∀ operation ∈ generation.operations, ∃ function,
        function? (functions text) (operation.functionName {}) = some function ∧
        (function.header.Legal ↔ ¬ operation.BeginsWithDigit) := by
  have same := (Scope.operations_of_generate generated).2
  refine ⟨fun operation _ => operation.isFieldName_functionName_iff, ?_⟩
  intro origin text rendered operation member
  have settingsNamed : ({} : Settings).WellNamed :=
    ⟨List.all_eq_true.1 (by decide), List.all_eq_true.1 (by decide)⟩
  have named : ∀ operation ∈ generation.operations, operation.Named := by
    rw [same]
    exact fun operation => Scope.named_of_mem_operations wellNamed
  refine ⟨_, function?_render settingsNamed (by decide) named rendered member, ?_⟩
  rw [same] at member
  obtain ⟨source, target, ⟨sourceIn, -⟩, ⟨targetIn, -⟩, kind, -, rfl⟩ :=
    (Scope.mem_operations_indexed_iff operation).1 member
  exact (Operation.legal_header_iff (wellNamed _ targetIn).name (wellNamed _ sourceIn).name).trans
    (Operation.isFieldName_functionName_iff _)

/-- A scope with a schema that begins with a digit behind its underscore. -/
def digitScope : List Schema :=
  [⟨"Order", [⟨"x", .bare "int"⟩], true⟩, ⟨"_2nd", [], true⟩]

theorem wellNamed_digitScope : ∀ schema ∈ digitScope, schema.WellNamed := by
  refine List.forall_mem_cons.2 ⟨⟨by decide, by decide⟩, List.forall_mem_singleton.2 ?_⟩
  exact ⟨by decide, by decide⟩

theorem generate_digitScope : ∃ generation, Scope.generate {} digitScope = .ok generation ∧
    generation.operations =
      [⟨.move, "Order", "Order", [⟨"x", "x", .plainToPlain⟩]⟩,
        ⟨.convert, "Order", "Order", [⟨"x", "x", .plainToPlain⟩]⟩, ⟨.move, "_2nd", "Order", []⟩,
        ⟨.convert, "_2nd", "Order", []⟩, ⟨.move, "Order", "_2nd", []⟩,
        ⟨.convert, "Order", "_2nd", []⟩, ⟨.move, "_2nd", "_2nd", []⟩,
        ⟨.convert, "_2nd", "_2nd", []⟩] :=
  ⟨_, Scope.generate_of_distinct rfl (by decide), by decide⟩

/-- The conversion from the schema that begins with a digit has a legal name. -/
theorem Generation.legal_functions_digitScope : (∀ schema ∈ digitScope, schema.WellNamed) ∧
    ∃ generation, Scope.generate {} digitScope = .ok generation ∧
      ⟨.convert, "_2nd", "Order", []⟩ ∈ generation.operations ∧
      Text.isFieldName (Operation.functionName {} ⟨.convert, "_2nd", "Order", []⟩) := by
  obtain ⟨generation, generated, same⟩ := generate_digitScope
  have member : ⟨.convert, "_2nd", "Order", []⟩ ∈ generation.operations := by
    rw [same]
    decide
  refine ⟨wellNamed_digitScope, generation, generated, member, ?_⟩
  apply ((legal_functions wellNamed_digitScope generated).1 _ member).2
  rintro ⟨-, digit⟩
  exact absurd digit (by decide)

/-- The conversion to the schema that begins with a digit is rendered under a name that is no
identifier. -/
theorem Generation.illegal_digitScope : (∀ schema ∈ digitScope, schema.WellNamed) ∧
    ∃ generation text, Scope.generate {} digitScope = .ok generation ∧
      generation.render {} none = .ok text ∧
      ⟨.convert, "Order", "_2nd", []⟩ ∈ generation.operations ∧
      Operation.functionName {} ⟨.convert, "Order", "_2nd", []⟩ = "2nd_from_order" ∧
      Text.isIdentifier "2nd_from_order" = false := by
  obtain ⟨generation, generated, same⟩ := generate_digitScope
  have unrepeated : firstRepeat? (generation.functionNames {}) = none := by
    rw [functionNames, same]
    decide
  have rendered : generation.render {} none =
      .ok ("\n".intercalate (generation.moduleLines {} none) ++ "\n") := by
    rw [render, unrepeated]
  have member : ⟨.convert, "Order", "_2nd", []⟩ ∈ generation.operations := by
    rw [same]
    decide
  exact ⟨wellNamed_digitScope, generation, _, generated, rendered, member, by decide, by decide⟩

end Fieldwise
