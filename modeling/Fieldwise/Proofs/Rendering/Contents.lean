import Fieldwise.Proofs.FirstRepeats
import Fieldwise.Proofs.Rendering.Agreement

/-! # What stands in a rendered module

A module is refused at the first function name that repeats an earlier one. Otherwise it lists the
function names of the operations, and it has one definition for each operation, in their order. The
move that a conversion calls is a definition of the same module, that of the same pair, and a
conversion calls nothing exactly if there is no such move (`Generation.render_contents`). All this is
read off the text alone and holds for every indentation, none included. -/

namespace Fieldwise

open Rendered

namespace Rendered

/-! ## Reading a module -/

/-- A definition of a module: the line that begins with `def`, and the lines below it up to the next
empty one. -/
structure Definition where
  head : List Char
  body : List (List Char)
  deriving DecidableEq, Repr

/-- Whether a line begins a definition, at the left margin or not. -/
def opensDefinition (line : List Char) : Bool :=
  (lex line).head? == some (.word "def")

def definitionsOf : List (List Char) → List Definition
  | [] => []
  | line :: rest =>
    if opensDefinition line then ⟨line, rest.takeWhile (!·.isEmpty)⟩ :: definitionsOf rest
    else definitionsOf rest

def definitions (text : String) : List Definition :=
  definitionsOf (text.toList.splitOn '\n')

def Statement.called? : Statement → Option String
  | call function => some function
  | _ => none

namespace Definition

/-- The header that the first line is. -/
def header? (definition : Definition) : Option Header :=
  Header.ofLexemes (lex definition.head)

def calls (definition : Definition) : List String :=
  (definition.body.filterMap Line.ofChars).filterMap (·.statement.called?)

end Definition

def opensExports (line : List Char) : Bool :=
  lex line == [.word "__all__", .symbol '=', .symbol '[']

def closesList (line : List Char) : Bool :=
  lex line == [.symbol ']']

def listedName? (line : List Char) : Option String :=
  match lex line with
  | [.symbol '"', .word name, .symbol '"', .symbol ','] => some name
  | _ => none

/-- The names up to the end of a list. -/
def listedNames? : List (List Char) → Option (List String)
  | [] => none
  | line :: rest =>
    if closesList line then some []
    else do return (← listedName? line) :: (← listedNames? rest)

/-- The names of the last list of exports among some lines. -/
def exportsOf? : List (List Char) → Option (List String)
  | [] => none
  | line :: rest => (exportsOf? rest).or (if opensExports line then listedNames? rest else none)

/-- The names that a module exports. -/
def exports? (text : String) : Option (List String) :=
  exportsOf? (text.toList.splitOn '\n')

/-! ## Definitions among lines -/

theorem definitionsOf_eq_nil {lines : List (List Char)}
    (closed : ∀ line ∈ lines, opensDefinition line = false) : definitionsOf lines = [] := by
  induction lines with
  | nil => rfl
  | cons line rest ih =>
    obtain ⟨first, others⟩ := List.forall_mem_cons.1 closed
    rw [definitionsOf, first, if_neg Bool.false_ne_true, ih others]

/-- No definition reaches over an empty line. -/
theorem definitionsOf_append_blank (before after : List (List Char)) :
    definitionsOf (before ++ [] :: after) = definitionsOf before ++ definitionsOf after := by
  induction before with
  | nil => rfl
  | cons line rest ih =>
    rw [List.cons_append, definitionsOf, definitionsOf, takeWhile_blank rfl, ih]
    split <;> rfl

/-- A line that begins a definition is one with the lines below it, if none of them begins another or
is empty. -/
theorem definitionsOf_cons {head : List Char} (opens : opensDefinition head)
    {body : List (List Char)} (inside : ∀ line ∈ body, opensDefinition line = false ∧ line ≠ []) :
    definitionsOf (head :: body) = [⟨head, body⟩] := by
  have whole : body.takeWhile (!·.isEmpty) = body := by
    refine List.takeWhile_eq_self_iff.2 fun line member => ?_
    rw [Bool.not_eq_true', List.isEmpty_eq_false_iff]
    exact (inside line member).2
  rw [definitionsOf, if_pos opens, whole,
    definitionsOf_eq_nil fun line member => (inside line member).1]

theorem opensDefinition_header {header : Header} (named : header.Named) :
    opensDefinition header.spell := by
  rw [opensDefinition, Header.lex_spell named]
  cases header <;> rfl

theorem header?_spell {header : Header} (named : header.Named) (body : List (List Char)) :
    Definition.header? ⟨header.spell, body⟩ = some header := by
  rw [Definition.header?, Header.lex_spell named, Header.ofLexemes_pieces]

/-- The line of a statement begins no definition, unless it calls a function of that name. -/
theorem opensDefinition_line {line : Line} (named : line.Named)
    (other : line.statement.called? ≠ some "def") : opensDefinition line.spell = false := by
  rw [opensDefinition, Line.lex_spell named]
  cases same : line.statement with
  | call function =>
    rw [same, Statement.called?, ne_eq, Option.some.injEq] at other
    simp [Statement.pieces, Piece.lexeme?, other]
  | _ => rfl

theorem Line.spell_ne_nil {line : Line} (named : line.Named) : line.spell ≠ [] := by
  intro empty
  have cut := Line.lex_spell named
  rw [empty] at cut
  cases same : line.statement <;> rw [same] at cut <;> cases cut

/-! ## Exports among lines -/

theorem exportsOf?_eq_none {lines : List (List Char)}
    (closed : ∀ line ∈ lines, opensExports line = false) : exportsOf? lines = none := by
  induction lines with
  | nil => rfl
  | cons line rest ih =>
    obtain ⟨first, others⟩ := List.forall_mem_cons.1 closed
    rw [exportsOf?, ih others, first]
    rfl

/-- A list of exports counts more than all before it. -/
theorem exportsOf?_append (before : List (List Char)) {lines : List (List Char)}
    {names : List String} (found : exportsOf? lines = some names) :
    exportsOf? (before ++ lines) = some names := by
  induction before with
  | nil => exact found
  | cons line rest ih =>
    rw [List.cons_append, exportsOf?, ih]
    rfl

theorem closesList_of_listedName? {line : List Char} {name : String}
    (listed : listedName? line = some name) : closesList line = false := by
  rw [listedName?] at listed
  split at listed
  · rename_i same
    rw [closesList, same]
    rfl
  · cases listed

/-- The names of a list are those of its lines. -/
theorem listedNames?_of_lines {line : String → List Char} {names : List String}
    (listed : ∀ name ∈ names, listedName? (line name) = some name) {closing : List Char}
    (closes : closesList closing) (after : List (List Char)) :
    listedNames? (names.map line ++ closing :: after) = some names := by
  induction names with
  | nil => rw [List.map_nil, List.nil_append, listedNames?, if_pos closes]
  | cons name rest ih =>
    obtain ⟨first, others⟩ := List.forall_mem_cons.1 listed
    rw [List.map_cons, List.cons_append, listedNames?, closesList_of_listedName? first,
      if_neg Bool.false_ne_true, first, ih others]
    rfl

theorem opensExports_of_listedName? {line : List Char} {name : String}
    (listed : listedName? line = some name) : opensExports line = false := by
  rw [listedName?] at listed
  split at listed
  · rename_i same
    rw [opensExports, same]
    rfl
  · cases listed

theorem opensExports_header {header : Header} (named : header.Named) :
    opensExports header.spell = false := by
  rw [opensExports, Header.lex_spell named]
  cases header <;> rfl

theorem opensExports_line {line : Line} (named : line.Named) :
    opensExports line.spell = false := by
  rw [opensExports, Line.lex_spell named]
  cases line.statement <;> simp [Statement.pieces, Piece.lexeme?]

theorem opensExports_of_closesList {line : List Char} (closes : closesList line) :
    opensExports line = false := by
  rw [closesList, beq_iff_eq] at closes
  rw [opensExports, closes]
  rfl

/-- The last list of exports is read whatever stands before it. -/
theorem exportsOf?_list {line : String → List Char} {names : List String}
    (listed : ∀ name ∈ names, listedName? (line name) = some name) {opening closing : List Char}
    (opens : opensExports opening) (closes : closesList closing) {after : List (List Char)}
    (closed : ∀ line ∈ after, opensExports line = false) (before : List (List Char)) :
    exportsOf? (before ++ opening :: (names.map line ++ closing :: after)) = some names := by
  have last : exportsOf? (names.map line ++ closing :: after) = none := by
    apply exportsOf?_eq_none
    rw [List.forall_mem_append, List.forall_mem_map, List.forall_mem_cons]
    exact ⟨fun name member => opensExports_of_listedName? (listed name member),
      opensExports_of_closesList closes, closed⟩
  apply exportsOf?_append
  rw [exportsOf?, last, if_pos opens, listedNames?_of_lines listed closes]
  rfl

end Rendered

/-! ## The definitions of operations -/

namespace Operation

/-- What a definition must be to define an operation in the module of a generation. `definitions` are
all definitions of the module. -/
structure DefinedBy (settings : Settings) (generation : Generation) (definitions : List Definition)
    (operation : Operation) (definition : Definition) : Prop where
  header : definition.header? = some (operation.header settings)
  readable : ∀ line ∈ definition.body, (Line.ofChars line).isSome
  calls : ∀ function ∈ definition.calls, ∃ move ∈ generation.operations,
    move.key = (.move, operation.sourceSchema, operation.targetSchema) ∧
      move.functionName settings = function ∧ ∃ called ∈ definitions,
        called.header? = some (.move function operation.targetSchema operation.sourceSchema)
  calls_eq_nil_iff : definition.calls = [] ↔ operation.kind = .move ∨
    (.move, operation.sourceSchema, operation.targetSchema) ∉ generation.operations.map (·.key)
  indented : 1 ≤ settings.indent → ∀ line ∈ definition.body, isIndented line

variable {settings : Settings} {generation : Generation} {operation : Operation}

/-- The definition that an operation is rendered as. -/
def definition (settings : Settings) (generation : Generation) (operation : Operation) :
    Definition :=
  ⟨(operation.header settings).spell,
    (operation.body settings.width (generation.moveName? settings operation.sourceSchema
      operation.targetSchema)).map Line.spell⟩

theorem called?_assignmentLines (indent : Nat) (operation : Operation) :
    (operation.assignmentLines indent).filterMap (·.statement.called?) = [] := by
  rw [assignmentLines, List.filterMap_flatMap, List.flatMap_eq_nil_iff]
  intro assignment _
  rw [Correspondence.body]
  split <;> rfl

/-- A body calls nothing but the move of a conversion. -/
theorem called?_body (indent : Nat) (moveName : Option String) (operation : Operation) :
    (operation.body indent moveName).filterMap (·.statement.called?) =
      if operation.kind = .move then [] else moveName.toList := by
  have assignments := operation.called?_assignmentLines indent
  rw [body.eq_def]
  cases operation.kind with
  | move =>
    dsimp only
    rw [moveLines, if_pos rfl]
    split
    · rfl
    · exact assignments
  | convert =>
    dsimp only
    rw [conversionLines.eq_def, List.filterMap_cons, List.filterMap_append,
      if_neg (by decide)]
    cases moveName with
    | none =>
      dsimp only
      rw [assignments]
      rfl
    | some name => rfl

theorem calls_definition (settingsNamed : settings.WellNamed) (named : operation.Named) :
    (operation.definition settings generation).calls = if operation.kind = .move then [] else
      (generation.moveName? settings operation.sourceSchema operation.targetSchema).toList := by
  rw [Definition.calls, definition,
    Line.filterMap_ofChars_spell (generation.named_bodyLines settingsNamed named), called?_body]

/-- The lines of a function are one definition. -/
theorem definitionsOf_block (settingsNamed : settings.WellNamed) (named : operation.Named) :
    definitionsOf (generation.block settings operation) =
      [operation.definition settings generation] := by
  have lines := generation.named_bodyLines settingsNamed named
  have others : ∀ line ∈ operation.body settings.width (generation.moveName? settings
      operation.sourceSchema operation.targetSchema), line.statement.called? ≠ some "def" := by
    intro line member calls
    have called : "def" ∈ (operation.body settings.width (generation.moveName? settings
        operation.sourceSchema operation.targetSchema)).filterMap (·.statement.called?) :=
      List.mem_filterMap.2 ⟨line, member, calls⟩
    rw [called?_body] at called
    split at called
    · cases called
    · obtain ⟨move, -, _, _, same⟩ := Generation.moveName?_eq_some (Option.mem_toList.1 called)
      have underscore := move.underscore_mem_functionName settings
      rw [same.2] at underscore
      exact absurd underscore (by decide)
  rw [Generation.block, lines_eq]
  refine definitionsOf_cons (opensDefinition_header (named_header settingsNamed named)) ?_
  exact List.forall_mem_map.2 fun line member =>
    ⟨opensDefinition_line (lines line member) (others line member),
      Line.spell_ne_nil (lines line member)⟩

end Operation

/-! ## Modules -/

namespace Generation

variable {options : GenerationOptions} {schemas : List Schema} {settings : Settings}
  {origin : Option String} {generation : Generation} {text : String}

/-- What a text is as the module of a generation. Only an origin whose name reaches over a line brings
definitions of its own. -/
structure IsModule (settings : Settings) (origin : Option String) (generation : Generation)
    (text : String) : Prop where
  distinct : (generation.functionNames settings).Nodup
  exports : exports? text = some (generation.functionNames settings)
  definitions : ∃ foreign own, Rendered.definitions text = foreign ++ own ∧
    ((∀ name ∈ origin, '\n' ∉ name.toList) → foreign = []) ∧
      List.Forall₂ (Operation.DefinedBy settings generation own) generation.operations own

/-- The definitions of a rendered module are those of its operations, after others that the import
line may hold. -/
theorem definitions_render (settingsNamed : settings.WellNamed)
    (named : ∀ operation ∈ generation.operations, operation.Named)
    (rendered : generation.render settings origin = .ok text) : Rendered.definitions text =
      definitionsOf (((generation.preamble settings origin).map String.toList).flatMap
        (·.splitOn '\n')) ++ generation.operations.map (Operation.definition settings generation) := by
  have read : ∀ operation ∈ generation.operations,
      definitionsOf (generation.block settings operation) =
        [operation.definition settings generation] :=
    fun operation member => Operation.definitionsOf_block settingsNamed (named operation member)
  have blocks : (generation.operations.map (generation.block settings)).flatMap definitionsOf =
      generation.operations.map (Operation.definition settings generation) := by
    rw [List.flatMap_map, List.flatMap_congr read, ← List.map_eq_flatMap]
  rw [Rendered.definitions, splitOn_render settingsNamed named rendered,
    read_blocks rfl definitionsOf_append_blank, blocks]

/-- The lines of the functions open no list of exports. -/
theorem opensExports_blocks (settingsNamed : settings.WellNamed)
    (named : ∀ operation ∈ generation.operations, operation.Named) :
    ∀ line ∈ (generation.operations.map (generation.block settings)).flatMap
      (fun block => [] :: [] :: block) ++ [[]], opensExports line = false := by
  have empty : opensExports [] = false := by decide
  simp only [List.forall_mem_append, List.forall_mem_flatMap, List.forall_mem_map,
    List.forall_mem_cons]
  refine ⟨fun operation member => ⟨empty, empty, ?_⟩, empty, List.forall_mem_nil _⟩
  rw [block, Operation.lines_eq, List.forall_mem_cons, List.forall_mem_map]
  exact ⟨opensExports_header (Operation.named_header settingsNamed (named operation member)),
    fun line lineIn =>
      opensExports_line (named_bodyLines settingsNamed generation (named operation member) line lineIn)⟩

/-- A rendered module exports the function names of its operations. -/
theorem exports?_render (settingsNamed : settings.WellNamed)
    (named : ∀ operation ∈ generation.operations, operation.Named)
    (rendered : generation.render settings origin = .ok text) :
    exports? text = some (generation.functionNames settings) := by
  let line (name : String) := (settings.pad ++ "\"" ++ name ++ "\",").toList
  have words : ∀ name ∈ generation.functionNames settings, IsWord name :=
    List.forall_mem_map.2 fun operation _ => operation.isWord_functionName settingsNamed
  have listed : ∀ name ∈ generation.functionNames settings,
      listedName? (line name) = some name := by
    intro name member
    rw [listedName?, lex_listedName settings (words name member)]
    rfl
  have whole : ∀ part ∈ "__all__ = [".toList :: ((generation.functionNames settings).map line ++
      ["]".toList]), '\n' ∉ part := by
    refine List.forall_mem_cons.2 ⟨by decide, List.forall_mem_append.2 ⟨?_, by decide⟩⟩
    refine List.forall_mem_map.2 fun name member => ?_
    have word := (words name member).newline_notMem
    simp only [line, String.toList_append, settings.toList_pad, List.mem_append, not_or]
    exact ⟨⟨⟨by simp, by decide⟩, word⟩, by decide⟩
  have list : ((generation.preamble settings origin).map String.toList).flatMap (·.splitOn '\n') =
      ((["# Generated by corresponding. Do not edit.", "from __future__ import annotations", ""] ++
        generation.importLines origin).map String.toList).flatMap (·.splitOn '\n') ++
          "__all__ = [".toList :: ((generation.functionNames settings).map line ++
            ["]".toList]) := by
    rw [← flatMap_splitOn_eq_self whole, ← List.flatMap_append, preamble]
    simp only [List.map_append, List.map_map, List.append_assoc]
    rfl
  rw [exports?, splitOn_render settingsNamed named rendered, list]
  simp only [List.append_assoc, List.cons_append, List.nil_append]
  exact exportsOf?_list listed (by decide) (by decide) (opensExports_blocks settingsNamed named) _

/-- Two operations share a name exactly if names repeat, since no operation occurs twice. -/
theorem nodup_functionNames_iff (generated : Scope.generate options schemas = .ok generation) :
    (generation.functionNames settings).Nodup ↔ ∀ first ∈ generation.operations,
      ∀ second ∈ generation.operations,
        first.functionName settings = second.functionName settings → first = second := by
  obtain ⟨distinct, same⟩ := Scope.operations_of_generate generated
  have keys : ((Scope.operations options (Scope.indexed options.marker schemas)).map (·.key)).Nodup :=
    (Scope.emission_operations distinct).distinct
  rw [← same] at keys
  rw [functionNames, List.nodup_map_iff_inj_on keys.of_map]

theorem render_eq_error_iff (clash : NameClash) : generation.render settings origin = .error clash ↔
    IsFirstRepeat (generation.functionNames settings) clash.name := by
  rw [render, ← firstRepeat?_eq_some_iff]
  cases firstRepeat? (generation.functionNames settings) with
  | none => simp
  | some name =>
    obtain ⟨other⟩ := clash
    simp

/-- A definition of a rendered module defines its operation. -/
theorem definedBy_definition (settingsNamed : settings.WellNamed)
    (named : ∀ operation ∈ generation.operations, operation.Named) {operation : Operation}
    (member : operation ∈ generation.operations) : operation.DefinedBy settings generation
      (generation.operations.map (Operation.definition settings generation))
      (operation.definition settings generation) where
  header := header?_spell (Operation.named_header settingsNamed (named operation member)) _
  readable := by
    refine List.forall_mem_map.2 fun line lineIn => ?_
    rw [Line.ofChars_spell (named_bodyLines settingsNamed generation (named operation member) line
      lineIn)]
    rfl
  calls function called := by
    rw [Operation.calls_definition settingsNamed (named operation member)] at called
    split at called
    · cases called
    · obtain ⟨move, moveIn, moves, source, target, name⟩ :=
        moveName?_eq_some (Option.mem_toList.1 called)
      refine ⟨move, moveIn, ?_, name, _, List.mem_map_of_mem moveIn, ?_⟩
      · rw [Operation.key, moves, source, target]
      · rw [Operation.definition,
          header?_spell (Operation.named_header settingsNamed (named move moveIn)), Operation.header,
          moves, source, target, name]
  calls_eq_nil_iff := by
    rw [Operation.calls_definition settingsNamed (named operation member), ← find?_eq_none_iff]
    by_cases moves : operation.kind = .move <;> simp [moves, moveName?]
  indented positive := by
    have width : 0 < settings.width := by
      rw [Settings.width]
      omega
    exact List.forall_mem_map.2 fun line lineIn =>
      Line.isIndented_spell (operation.indented_body width _ line lineIn)

/-- The module of a generation is refused exactly if two of its operations have one function name; the
error names the first name that repeats an earlier one. Any other module exports the function names
and defines each operation once, all in the order of the operations. A conversion calls the move of
its pair in the same module, and it calls nothing exactly if that move was not emitted. -/
theorem render_contents (wellNamed : ∀ schema ∈ schemas, schema.WellNamed)
    (generated : Scope.generate options schemas = .ok generation)
    (settingsNamed : settings.WellNamed) (origin : Option String) :
    ((∃ clash, generation.render settings origin = .error clash) ↔
      ∃ first ∈ generation.operations, ∃ second ∈ generation.operations, first ≠ second ∧
        first.functionName settings = second.functionName settings) ∧
    (∀ clash, generation.render settings origin = .error clash ↔
      IsFirstRepeat (generation.functionNames settings) clash.name) ∧
    ∀ text, generation.render settings origin = .ok text →
      generation.IsModule settings origin text := by
  have named : ∀ operation ∈ generation.operations, operation.Named := by
    rw [(Scope.operations_of_generate generated).2]
    exact fun operation => Scope.named_of_mem_operations wellNamed
  refine ⟨?_, render_eq_error_iff, fun text rendered => ⟨?_, ?_, ?_⟩⟩
  · have clash : (∃ clash, generation.render settings origin = .error clash) ↔
        ∃ name, IsFirstRepeat (generation.functionNames settings) name := by
      simp only [render_eq_error_iff]
      exact ⟨fun ⟨clash, repeats⟩ => ⟨clash.name, repeats⟩, fun ⟨name, repeats⟩ => ⟨⟨name⟩, repeats⟩⟩
    rw [clash, exists_isFirstRepeat_iff, nodup_functionNames_iff generated]
    push Not
    simp only [and_comm]
  · exact (nodup_functionNames_of_render rendered).1
  · exact exports?_render settingsNamed named rendered
  · refine ⟨_, _, definitions_render settingsNamed named rendered, fun oneLine => ?_, ?_⟩
    · have words : ∀ name ∈ generation.functionNames settings, IsWord name :=
        List.forall_mem_map.2 fun operation _ => operation.isWord_functionName settingsNamed
      have lines := preamble_lines oneLine (isWord_of_mem_schemas wellNamed generated) words
      rw [flatMap_splitOn_eq_self (List.forall_mem_map.2 fun line member => (lines line member).1)]
      refine definitionsOf_eq_nil (List.forall_mem_map.2 fun line member => ?_)
      rw [opensDefinition, beq_eq_false_iff_ne]
      exact (lines line member).2
    · rw [List.forall₂_map_right_iff, List.forall₂_same]
      exact fun operation => definedBy_definition settingsNamed named

/-- Without self moves the conversion of a schema into itself has no move to call. -/
theorem render_contents_withoutSelfMoves :
    let schemas : List Schema :=
      [⟨"A", [⟨"x", .bare "int"⟩], true⟩, ⟨"B", [⟨"x", .mk "Optional" [.bare "int"]⟩], false⟩]
    let settings : Settings := { selfMoves := false, indent := 0 }
    ∃ generation text, (∀ schema ∈ schemas, schema.WellNamed) ∧
      Scope.generate settings.generation schemas = .ok generation ∧ settings.WellNamed ∧
      generation.render settings (some "models") = .ok text ∧
      exports? text = some ["a_from_a", "move_corresponding_b_into_a", "a_from_b",
        "move_corresponding_a_into_b"] ∧
      ∃ inlined move calling other, Rendered.definitions text = [inlined, move, calling, other] ∧
        inlined.header? = some (.conversion "a_from_a" "A" "A") ∧ inlined.calls = [] ∧
        calling.header? = some (.conversion "a_from_b" "B" "A") ∧ calling.calls ≠ [] ∧
        ∀ function ∈ calling.calls, function = "move_corresponding_b_into_a" := by
  intro schemas settings
  have wellNamed : ∀ schema ∈ schemas, schema.WellNamed := by
    refine List.forall_mem_cons.2 ⟨⟨by decide, by decide⟩, List.forall_mem_singleton.2 ?_⟩
    exact ⟨by decide, by decide⟩
  have settingsNamed : settings.WellNamed :=
    ⟨List.all_eq_true.1 (by decide), List.all_eq_true.1 (by decide)⟩
  obtain ⟨generation, generated, same⟩ : ∃ generation,
      Scope.generate settings.generation schemas = .ok generation ∧ generation.operations =
        [⟨.convert, "A", "A", [⟨"x", "x", .plainToPlain⟩]⟩,
          ⟨.move, "B", "A", [⟨"x", "x", .optionalToPlain⟩]⟩,
          ⟨.convert, "B", "A", [⟨"x", "x", .optionalToPlain⟩]⟩,
          ⟨.move, "A", "B", [⟨"x", "x", .plainToOptional⟩]⟩] :=
    ⟨_, Scope.generate_of_distinct rfl (by decide), by decide⟩
  have names : generation.functionNames settings = ["a_from_a", "move_corresponding_b_into_a",
      "a_from_b", "move_corresponding_a_into_b"] := by
    rw [functionNames, same]
    decide
  have rendered : generation.render settings (some "models") =
      .ok ("\n".intercalate (generation.moduleLines settings (some "models")) ++ "\n") := by
    rw [render, names]
    rfl
  obtain ⟨-, exports, foreign, own, definitions, oneLine, defined⟩ :=
    (render_contents wellNamed generated settingsNamed (some "models")).2.2 _ rendered
  rw [oneLine (by decide), List.nil_append] at definitions
  refine ⟨generation, _, wellNamed, generated, settingsNamed, rendered, exports.trans (by rw [names]),
    ?_⟩
  simp only [same, List.forall₂_cons_left_iff, List.forall₂_nil_left_iff] at defined
  obtain ⟨inlined, _, first,
    ⟨move, _, -, ⟨calling, _, third, ⟨other, _, -, rfl, rfl⟩, rfl⟩, rfl⟩, rfl⟩ := defined
  refine ⟨inlined, move, calling, other, definitions, first.header, ?_, third.header, ?_, ?_⟩
  · rw [first.calls_eq_nil_iff, same]
    decide
  · rw [ne_eq, third.calls_eq_nil_iff, same]
    decide
  · intro function called
    obtain ⟨called, member, key, name, -⟩ := third.calls function called
    rw [same] at member
    simp only [List.mem_cons, List.not_mem_nil, or_false] at member
    rw [← name]
    obtain rfl | rfl | rfl | rfl := member
    all_goals revert key; decide

end Generation

end Fieldwise
