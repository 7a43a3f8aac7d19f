import Fieldwise.Proofs.KeyedLists
import Fieldwise.Proofs.Rendering.Bodies
import Fieldwise.Proofs.Rendering.FunctionNames

/-! # The functions of a rendered module

Whatever stands before them in a rendered module, its last functions are those of the operations, in
their order (`Generation.functions_render`). Their names are distinct, so each name stands for the
function of its operation (`Generation.function?_render`). -/

namespace Fieldwise

open Rendered

/-! ## The lines of a text -/

/-- The lines of joined texts are the lines of the texts. -/
theorem splitOn_intercalate_newline {texts : List (List Char)} (some_text : texts ≠ []) :
    (['\n'].intercalate texts).splitOn '\n' = texts.flatMap (·.splitOn '\n') := by
  induction texts with
  | nil => exact absurd rfl some_text
  | cons first others ih =>
    cases others with
    | nil => simp
    | cons next rest =>
      rw [List.intercalate_cons_cons, List.append_assoc, List.singleton_append,
        List.splitOn_append_cons_self, ih (List.cons_ne_nil _ _)]
      exact List.flatMap_cons.symm

theorem flatMap_splitOn_eq_self {lines : List (List Char)} (whole : ∀ line ∈ lines, '\n' ∉ line) :
    lines.flatMap (·.splitOn '\n') = lines := by
  induction lines with
  | nil => rfl
  | cons line rest ih =>
    obtain ⟨lineWhole, restWhole⟩ := List.forall_mem_cons.1 whole
    rw [List.flatMap_cons, List.splitOn_eq_singleton lineWhole, ih restWhole,
      List.singleton_append]

theorem notMem_intercalate {char : Char} {separator : List Char} {texts : List (List Char)}
    (apart : char ∉ separator) (free : ∀ text ∈ texts, char ∉ text) :
    char ∉ separator.intercalate texts := by
  induction texts with
  | nil => exact List.not_mem_nil
  | cons first others ih =>
    obtain ⟨firstFree, othersFree⟩ := List.forall_mem_cons.1 free
    cases others with
    | nil => simpa using firstFree
    | cons next rest =>
      rw [List.intercalate_cons_cons, List.mem_append, List.mem_append, not_or, not_or]
      exact ⟨⟨firstFree, apart⟩, ih othersFree⟩

/-! ## Functions among lines -/

namespace Rendered

/-- What is read up to each empty line on its own is read block by block. -/
theorem read_blocks {α : Type} {read : List (List Char) → List α} (none : read [] = [])
    (append_blank : ∀ before after, read (before ++ [] :: after) = read before ++ read after)
    (before : List (List Char)) (blocks : List (List (List Char))) :
    read (before ++ (blocks.flatMap (fun block => [] :: [] :: block) ++ [[]])) =
      read before ++ blocks.flatMap read := by
  induction blocks generalizing before with
  | nil =>
    rw [List.flatMap_nil, List.nil_append, append_blank before [], none, List.flatMap_nil]
  | cons block rest ih =>
    have apart : before ++ ((block :: rest).flatMap (fun block => [] :: [] :: block) ++ [[]]) =
        before ++ [] :: ([] ++ [] ::
          (block ++ (rest.flatMap (fun block => [] :: [] :: block) ++ [[]]))) := by
      simp
    rw [apart, append_blank, append_blank, ih block, none, List.nil_append, List.flatMap_cons]

/-- The last functions of distinct names are the ones that their names stand for. -/
theorem function?_append_of_mem (before : List Function) {functions : List Function}
    (distinct : (functions.map (·.header.name)).Nodup) {function : Function}
    (member : function ∈ functions) :
    function? (before ++ functions) function.header.name = some function := by
  have reversed : (functions.reverse.map (·.header.name)).Nodup := by
    rw [List.map_reverse, List.nodup_reverse]
    exact distinct
  have found := (find?_key_eq_some_iff reversed function.header.name function).2
    ⟨List.mem_reverse.2 member, rfl⟩
  rw [function?, List.reverse_append, List.find?_append, found, Option.some_or]

end Rendered

def Operation.function (settings : Settings) (moveName : String → String → Option String)
    (operation : Operation) : Function :=
  ⟨operation.header settings,
    (operation.body settings.width
      (moveName operation.sourceSchema operation.targetSchema)).map Line.spell⟩

theorem Operation.name_header (settings : Settings) (operation : Operation) :
    (operation.header settings).name = operation.functionName settings := by
  rw [header]
  cases operation.kind <;> rfl

theorem Operation.named_header {settings : Settings} (wellNamed : settings.WellNamed)
    {operation : Operation} (named : operation.Named) : (operation.header settings).Named := by
  have word := operation.isWord_functionName wellNamed
  rw [header]
  cases operation.kind with
  | move => exact ⟨word, named.target, named.source⟩
  | convert => exact ⟨word, named.target, named.source⟩

/-! ## Rendered modules -/

namespace Generation

variable {settings : Settings} {origin : Option String} {generation : Generation} {text : String}

def preamble (settings : Settings) (origin : Option String) (generation : Generation) :
    List String :=
  ["# Generated by corresponding. Do not edit.", "from __future__ import annotations", ""] ++
    generation.importLines origin ++
    ["__all__ = ["] ++
    (generation.functionNames settings).map (fun name => settings.pad ++ "\"" ++ name ++ "\",") ++
    ["]"]

theorem moduleLines_eq (settings : Settings) (origin : Option String) (generation : Generation) :
    generation.moduleLines settings origin = generation.preamble settings origin ++
      generation.operations.flatMap fun operation =>
        ["", ""] ++ operation.lines settings (generation.moveName? settings) :=
  rfl

/-- A module is rendered only if the function names are distinct. -/
theorem nodup_functionNames_of_render (rendered : generation.render settings origin = .ok text) :
    (generation.functionNames settings).Nodup ∧
      text = "\n".intercalate (generation.moduleLines settings origin) ++ "\n" := by
  rw [render] at rendered
  split at rendered
  · cases rendered
  · rename_i unrepeated
    exact ⟨(firstRepeat?_eq_none_iff _).1 unrepeated, (Except.ok.inj rendered).symm⟩

theorem isWord_of_moveName? (wellNamed : settings.WellNamed) (generation : Generation)
    (source target : String) :
    ∀ name ∈ generation.moveName? settings source target, IsWord name := by
  intro name same
  obtain ⟨move, -, rfl⟩ := Option.map_eq_some_iff.1 same
  exact move.isWord_functionName wellNamed

/-- The body of an operation's function in a module is made of words. -/
theorem named_bodyLines (wellNamed : settings.WellNamed) (generation : Generation)
    {operation : Operation} (named : operation.Named) :
    ∀ line ∈ operation.body settings.width (generation.moveName? settings operation.sourceSchema
      operation.targetSchema), line.Named :=
  Operation.named_body named _ (isWord_of_moveName? wellNamed _ _ _)

def block (settings : Settings) (generation : Generation) (operation : Operation) :
    List (List Char) :=
  (operation.lines settings (generation.moveName? settings)).map String.toList

/-- The lines of a function hold no line ends. -/
theorem newline_notMem_block (wellNamed : settings.WellNamed) {operation : Operation}
    (named : operation.Named) : ∀ line ∈ generation.block settings operation, '\n' ∉ line := by
  rw [block, Operation.lines_eq, List.forall_mem_cons, List.forall_mem_map]
  refine ⟨Header.newline_notMem_spell (Operation.named_header wellNamed named), ?_⟩
  intro line member
  exact Line.newline_notMem_spell
    (named_bodyLines wellNamed generation named line member)

theorem functionsOf_block (wellNamed : settings.WellNamed) (indented : 1 ≤ settings.indent)
    {operation : Operation} (named : operation.Named) :
    functionsOf (generation.block settings operation) =
      [operation.function settings (generation.moveName? settings)] := by
  have width : 0 < settings.width := by
    rw [Settings.width]
    omega
  rw [block, Operation.lines_eq]
  apply functionsOf_spell (Operation.named_header wellNamed named)
  rw [List.forall_mem_map]
  exact fun line member => Line.isIndented_spell (operation.indented_body width _ line member)

/-- The lines of a rendered module: those of the preamble, then the blocks of the operations, each
after two empty lines. -/
theorem splitOn_render (wellNamed : settings.WellNamed)
    (named : ∀ operation ∈ generation.operations, operation.Named)
    (rendered : generation.render settings origin = .ok text) : text.toList.splitOn '\n' =
      ((generation.preamble settings origin).map String.toList).flatMap (·.splitOn '\n') ++
        ((generation.operations.map (generation.block settings)).flatMap
          (fun block => [] :: [] :: block) ++ [[]]) := by
  obtain ⟨-, rfl⟩ := nodup_functionNames_of_render rendered
  have newline : "\n".toList = ['\n'] := rfl
  have some_line : (generation.moduleLines settings origin).map String.toList ≠ [] := by
    simp [moduleLines_eq, preamble]
  have blocks : (generation.operations.flatMap fun operation =>
      ["", ""] ++ operation.lines settings (generation.moveName? settings)).map String.toList =
        (generation.operations.map (generation.block settings)).flatMap
          fun block => [] :: [] :: block := by
    rw [List.map_flatMap, List.flatMap_map]
    rfl
  have whole : ∀ line ∈ (generation.operations.map (generation.block settings)).flatMap
      (fun block => [] :: [] :: block), '\n' ∉ line := by
    simp only [List.forall_mem_flatMap, List.forall_mem_map, List.forall_mem_cons]
    exact fun operation member => ⟨List.not_mem_nil, List.not_mem_nil,
      newline_notMem_block wellNamed (named operation member)⟩
  rw [String.toList_append, String.toList_intercalate, newline, List.splitOn_append_cons_self,
    splitOn_intercalate_newline some_line, moduleLines_eq, List.map_append, List.flatMap_append,
    blocks, flatMap_splitOn_eq_self whole, List.append_assoc]
  rfl

/-- The functions of a rendered module are those of its operations, after others that the import
line may hold. -/
theorem functions_render (wellNamed : settings.WellNamed) (indented : 1 ≤ settings.indent)
    (named : ∀ operation ∈ generation.operations, operation.Named)
    (rendered : generation.render settings origin = .ok text) : functions text =
      functionsOf (((generation.preamble settings origin).map String.toList).flatMap
        (·.splitOn '\n')) ++
      generation.operations.map (Operation.function settings (generation.moveName? settings)) := by
  have read : ∀ operation ∈ generation.operations,
      functionsOf (generation.block settings operation) =
        [operation.function settings (generation.moveName? settings)] :=
    fun operation member => functionsOf_block wellNamed indented (named operation member)
  have blocks : (generation.operations.map (generation.block settings)).flatMap functionsOf =
      generation.operations.map
        (Operation.function settings (generation.moveName? settings)) := by
    rw [List.flatMap_map, List.flatMap_congr read, ← List.map_eq_flatMap]
  rw [functions, splitOn_render wellNamed named rendered,
    read_blocks rfl functionsOf_append_blank, blocks]

/-- A line that lists a name. -/
theorem lex_listedName (settings : Settings) {name : String} (isWord : IsWord name) :
    lex (settings.pad ++ "\"" ++ name ++ "\",").toList =
      [.symbol '"', .word name, .symbol '"', .symbol ','] := by
  let pieces : List Piece := [.symbol '"', .word name, .symbol '"', .symbol ',']
  have spelled : (settings.pad ++ "\"" ++ name ++ "\",").toList =
      List.replicate settings.width ' ' ++ pieces.flatMap Piece.chars := by
    simp [pieces, settings.toList_pad, Piece.chars]
  have quote : (Piece.symbol '"').Proper := by decide
  have comma : (Piece.symbol ',').Proper := by decide
  have proper : ∀ piece ∈ pieces, piece.Proper := by
    simp only [pieces, List.forall_mem_cons]
    exact ⟨quote, isWord, quote, comma, List.forall_mem_nil _⟩
  have apart : pieces.IsChain Piece.Apart := by simp [pieces, Piece.Apart]
  rw [spelled, Line.lex_spaces, lex_pieces proper apart]
  rfl

/-- The lines before the functions do not begin like one, unless the name of the origin reaches over
a line. -/
theorem preamble_lines (oneLine : ∀ name ∈ origin, '\n' ∉ name.toList)
    (schemas : ∀ name ∈ generation.schemas, IsWord name)
    (names : ∀ name ∈ generation.functionNames settings, IsWord name) :
    ∀ line ∈ generation.preamble settings origin,
      '\n' ∉ line.toList ∧ (lex line.toList).head? ≠ some (.word "def") := by
  have empty : '\n' ∉ "".toList ∧ (lex "".toList).head? ≠ some (.word "def") := by decide
  have imports : ∀ line ∈ generation.importLines origin,
      '\n' ∉ line.toList ∧ (lex line.toList).head? ≠ some (.word "def") := by
    cases origin with
    | none => exact List.forall_mem_nil _
    | some name =>
      rw [importLines]
      split
      · exact List.forall_mem_nil _
      · refine List.forall_mem_cons.2 ⟨⟨?_, ?_⟩, List.forall_mem_singleton.2 empty⟩
        · have separated : '\n' ∉ ", ".toList := by decide
          have listed := notMem_intercalate separated
            (List.forall_mem_map.2 fun name member => (schemas name member).newline_notMem)
          simp only [String.toList_append, String.toList_intercalate, List.mem_append, not_or]
          exact ⟨⟨⟨by decide, oneLine name rfl⟩, by decide⟩, listed⟩
        · have lead : "from ".toList = "from".toList ++ [' '] := by decide
          simp only [String.toList_append, lead, List.append_assoc, List.singleton_append]
          rw [lex_word (show IsWord "from" by decide) (by rintro _ ⟨rfl⟩; exact not_isNameChar_space)]
          simp
  have quoted : ∀ line ∈ (generation.functionNames settings).map
      (fun name => settings.pad ++ "\"" ++ name ++ "\","),
      '\n' ∉ line.toList ∧ (lex line.toList).head? ≠ some (.word "def") := by
    refine List.forall_mem_map.2 fun name member => ⟨?_, ?_⟩
    · have word := (names name member).newline_notMem
      simp only [String.toList_append, settings.toList_pad, List.mem_append, not_or]
      exact ⟨⟨⟨by simp, by decide⟩, word⟩, by decide⟩
    · rw [lex_listedName settings (names name member)]
      simp
  have first : ∀ line ∈ ["# Generated by corresponding. Do not edit.",
      "from __future__ import annotations", ""],
      '\n' ∉ line.toList ∧ (lex line.toList).head? ≠ some (.word "def") := by decide
  have opening : ∀ line ∈ ["__all__ = ["],
      '\n' ∉ line.toList ∧ (lex line.toList).head? ≠ some (.word "def") := by decide
  have closing : ∀ line ∈ ["]"],
      '\n' ∉ line.toList ∧ (lex line.toList).head? ≠ some (.word "def") := by decide
  rw [preamble]
  simp only [List.forall_mem_append]
  exact ⟨⟨⟨⟨first, imports⟩, opening⟩, quoted⟩, closing⟩

/-- The lines before the functions open none, unless the name of the origin reaches over a line. -/
theorem functionsOf_preamble (oneLine : ∀ name ∈ origin, '\n' ∉ name.toList)
    (schemas : ∀ name ∈ generation.schemas, IsWord name)
    (names : ∀ name ∈ generation.functionNames settings, IsWord name) :
    functionsOf (((generation.preamble settings origin).map String.toList).flatMap
      (·.splitOn '\n')) = [] := by
  have lines := preamble_lines oneLine schemas names
  rw [flatMap_splitOn_eq_self]
  · exact functionsOf_eq_nil (List.forall_mem_map.2 fun line member =>
      headerOf?_of_head? (lines line member).2)
  · exact List.forall_mem_map.2 fun line member => (lines line member).1

/-- If the origin is named on one line, the functions of a rendered module are exactly those of its
operations. -/
theorem functions_render_of_oneLine (wellNamed : settings.WellNamed) (indented : 1 ≤ settings.indent)
    (named : ∀ operation ∈ generation.operations, operation.Named)
    (schemas : ∀ name ∈ generation.schemas, IsWord name)
    (oneLine : ∀ name ∈ origin, '\n' ∉ name.toList)
    (rendered : generation.render settings origin = .ok text) : functions text =
      generation.operations.map (Operation.function settings (generation.moveName? settings)) := by
  have names : ∀ name ∈ generation.functionNames settings, IsWord name :=
    List.forall_mem_map.2 fun operation _ => operation.isWord_functionName wellNamed
  rw [functions_render wellNamed indented named rendered,
    functionsOf_preamble oneLine schemas names, List.nil_append]

/-- The functions of operations have the function names of the generation. -/
theorem names_functions (settings : Settings) (generation : Generation) :
    (generation.operations.map (Operation.function settings (generation.moveName? settings))).map
      (·.header.name) = generation.functionNames settings := by
  rw [List.map_map, functionNames]
  exact List.map_congr_left fun operation _ => operation.name_header settings

/-- The name of an operation's function stands for that function. -/
theorem function?_render (wellNamed : settings.WellNamed) (indented : 1 ≤ settings.indent)
    (named : ∀ operation ∈ generation.operations, operation.Named)
    (rendered : generation.render settings origin = .ok text) {operation : Operation}
    (member : operation ∈ generation.operations) :
    function? (functions text) (operation.functionName settings) =
      some (operation.function settings (generation.moveName? settings)) := by
  have distinct : ((generation.operations.map (Operation.function settings
      (generation.moveName? settings))).map (·.header.name)).Nodup := by
    rw [names_functions]
    exact (nodup_functionNames_of_render rendered).1
  rw [functions_render wellNamed indented named rendered, ← operation.name_header settings]
  exact function?_append_of_mem _ distinct (List.mem_map_of_mem member)

end Generation

end Fieldwise
