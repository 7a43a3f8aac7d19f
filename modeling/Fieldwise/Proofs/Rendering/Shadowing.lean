import Fieldwise.Proofs.Rendering.Legality

/-! # Shadowed names

A conversion builds its target by calling it by the name of its schema. In the body of the function
that name means something else if it is one of the function's own names, `lhs` and `rhs`, or the name
of a function of the module. Function names are kept apart from each other only, so a schema can have
such a name: exactly if it is called `lhs` or `rhs`, or like the function of some pair of the scope
(`Generation.shadows_target_iff`). A name with a capital letter is never shadowed. -/

namespace Fieldwise

open Rendered

namespace Rendered

def Header.parameters : Header → List String
  | move _ _ _ => ["lhs", "rhs"]
  | conversion _ _ _ => ["rhs"]

/-- The name that a statement sets. -/
def Statement.bound? : Statement → Option String
  | build _ => some "lhs"
  | _ => none

/-- The names that belong to a function: those it is given and those that its lines set. -/
def Function.locals (function : Function) : List String :=
  function.header.parameters ++
    (function.body.filterMap Line.ofChars).filterMap (·.statement.bound?)

/-- Whether a name means something else in the body of a function than outside of the module. -/
def Function.Shadows (functions : List Function) (function : Function) (name : String) : Prop :=
  name ∈ function.locals ∨ name ∈ functions.map (·.header.name)

end Rendered

/-! ## The names of conversions -/

theorem Operation.bound?_assignmentLines (indent : Nat) (operation : Operation) :
    (operation.assignmentLines indent).filterMap (·.statement.bound?) = [] := by
  rw [assignmentLines, List.filterMap_flatMap, List.flatMap_eq_nil_iff]
  intro assignment _
  rw [Correspondence.body]
  split <;> rfl

/-- The names of a conversion are the source that it is given and the target that it builds. -/
theorem Operation.locals_function {operation : Operation} (named : operation.Named)
    (converts : operation.kind = .convert) (settings : Settings)
    {moveName : String → String → Option String}
    (moveNamed : ∀ name ∈ moveName operation.sourceSchema operation.targetSchema, IsWord name) :
    (operation.function settings moveName).locals = ["rhs", "lhs"] := by
  have parameters : (operation.function settings moveName).header.parameters = ["rhs"] := by
    rw [function, header, converts]
    rfl
  have lines : (operation.function settings moveName).body.filterMap Line.ofChars =
      operation.conversionLines settings.width
        (moveName operation.sourceSchema operation.targetSchema) := by
    rw [function, Line.filterMap_ofChars_spell (named_body named _ moveNamed), body.eq_def, converts]
  rw [Function.locals, parameters, lines, conversionLines.eq_def, List.filterMap_cons,
    List.filterMap_append]
  cases moveName operation.sourceSchema operation.targetSchema with
  | none =>
    dsimp only
    rw [bound?_assignmentLines]
    rfl
  | some name => rfl

/-- A conversion begins by building its target. -/
theorem Operation.head?_function {operation : Operation} (named : operation.Named)
    (converts : operation.kind = .convert) (settings : Settings)
    (moveName : String → String → Option String) :
    (operation.function settings moveName).body.head?.bind Line.ofChars =
      some ⟨settings.width, .build operation.targetSchema⟩ := by
  have target : Line.Named ⟨settings.width, .build operation.targetSchema⟩ :=
    List.forall_mem_singleton.2 named.target
  rw [function, body.eq_def, converts]
  dsimp only
  rw [conversionLines.eq_def, List.map_cons, List.head?_cons, Option.bind_some,
    Line.ofChars_spell target]

namespace Generation

variable {options : GenerationOptions} {schemas : List Schema} {settings : Settings}
  {origin : Option String} {generation : Generation} {text : String}

/-- The function names of a generation are those of the pairs that have an operation. -/
theorem mem_functionNames_iff (generated : Scope.generate options schemas = .ok generation)
    (name : String) : name ∈ generation.functionNames settings ↔
      ∃ kind source target, Scope.EmitsNamed options schemas kind source target ∧
        name = Operation.functionName settings ⟨kind, source, target, []⟩ := by
  have keyed (operation : Operation) : operation.functionName settings =
      Operation.functionName settings
        ⟨operation.kind, operation.sourceSchema, operation.targetSchema, []⟩ := rfl
  rw [functionNames, (Scope.operations_of_generate generated).2, List.mem_map]
  constructor
  · rintro ⟨operation, member, rfl⟩
    exact ⟨_, _, _, (Scope.mem_keys_operations_iff _ _ _).1 (List.mem_map_of_mem member),
      keyed operation⟩
  · rintro ⟨kind, source, target, emits, rfl⟩
    obtain ⟨operation, member, same⟩ :=
      List.mem_map.1 ((Scope.mem_keys_operations_iff kind source target).2 emits)
    cases same
    exact ⟨operation, member, keyed operation⟩

/-- What the function of a conversion shadows: `lhs`, `rhs` and the names of functions. -/
theorem shadows_iff (wellNamed : settings.WellNamed) (indented : 1 ≤ settings.indent)
    (named : ∀ operation ∈ generation.operations, operation.Named)
    (schemas : ∀ name ∈ generation.schemas, IsWord name)
    (oneLine : ∀ name ∈ origin, '\n' ∉ name.toList)
    (rendered : generation.render settings origin = .ok text) {operation : Operation}
    (member : operation ∈ generation.operations) (converts : operation.kind = .convert)
    (name : String) :
    (operation.function settings (generation.moveName? settings)).Shadows (functions text) name ↔
      name ∈ ["lhs", "rhs"] ∨ name ∈ generation.functionNames settings := by
  rw [Function.Shadows, functions_render_of_oneLine wellNamed indented named schemas oneLine rendered,
    names_functions, Operation.locals_function (named operation member) converts settings
      (isWord_of_moveName? wellNamed _ _ _)]
  simp [or_comm]

/-- In a rendered module the function of a conversion begins by calling its target. The name shadows
nothing unless it is `lhs` or `rhs`, or that of the function of a pair that has an operation; then it
consists of lower-case letters, digits and underscores. -/
theorem shadows_target_iff (wellNamed : ∀ schema ∈ schemas, schema.WellNamed)
    (generated : Scope.generate options schemas = .ok generation)
    (oneLine : ∀ name ∈ origin, '\n' ∉ name.toList)
    (rendered : generation.render {} origin = .ok text) {operation : Operation}
    (member : operation ∈ generation.operations) (converts : operation.kind = .convert) :
    ∃ function, function? (functions text) (operation.functionName {}) = some function ∧
      function.body.head?.bind Line.ofChars = some ⟨4, .build operation.targetSchema⟩ ∧
      (function.Shadows (functions text) operation.targetSchema ↔
        operation.targetSchema ∈ ["lhs", "rhs"] ∨
        ∃ kind source target, Scope.EmitsNamed options schemas kind source target ∧
          operation.targetSchema = Operation.functionName {} ⟨kind, source, target, []⟩) ∧
      (function.Shadows (functions text) operation.targetSchema →
        ∀ char ∈ operation.targetSchema.toList, Naming.isSnakeChar char) := by
  have settingsNamed : ({} : Settings).WellNamed :=
    ⟨List.all_eq_true.1 (by decide), List.all_eq_true.1 (by decide)⟩
  have named : ∀ operation ∈ generation.operations, operation.Named := by
    rw [(Scope.operations_of_generate generated).2]
    exact fun operation => Scope.named_of_mem_operations wellNamed
  have shadows := shadows_iff settingsNamed (by decide) named
    (isWord_of_mem_schemas wellNamed generated) oneLine rendered member converts
    operation.targetSchema
  refine ⟨_, function?_render settingsNamed (by decide) named rendered member,
    Operation.head?_function (named operation member) converts {} _, ?_, fun shadowed => ?_⟩
  · rw [shadows, mem_functionNames_iff generated]
  · rcases shadows.1 shadowed with own | other
    · have snake : ∀ name ∈ ["lhs", "rhs"], name.toList.all Naming.isSnakeChar := by decide
      exact List.all_eq_true.1 (snake _ own)
    · obtain ⟨emitted, -, same⟩ := List.mem_map.1 other
      rw [← same]
      exact emitted.isSnakeChar_of_mem_functionName

end Generation

/-- A scope with a schema that is called like the function of a pair and one that is called like the
target of a function. -/
def shadowScope : List Schema :=
  [⟨"A", [], true⟩, ⟨"B", [], false⟩, ⟨"a_from_b", [], true⟩, ⟨"lhs", [], true⟩]

theorem wellNamed_shadowScope : ∀ schema ∈ shadowScope, schema.WellNamed := by
  have name : ∀ schema ∈ shadowScope, Text.isFieldName schema.name := by decide
  have fields : ∀ schema ∈ shadowScope, ∀ field ∈ schema.fields, Text.isFieldName field.name := by
    decide
  exact fun schema member => ⟨name schema member, fields schema member⟩

theorem render_shadowScope : ∃ generation text, Scope.generate {} shadowScope = .ok generation ∧
    generation.render {} none = .ok text ∧
    generation.operations = Scope.operations {} (Scope.indexed "Optional" shadowScope) := by
  obtain ⟨generation, generated, same⟩ : ∃ generation,
      Scope.generate {} shadowScope = .ok generation ∧
        generation.operations = Scope.operations {} (Scope.indexed "Optional" shadowScope) :=
    ⟨_, Scope.generate_of_distinct rfl (by decide), rfl⟩
  have unrepeated : firstRepeat? (generation.functionNames {}) = none := by
    rw [Generation.functionNames, same]
    decide
  refine ⟨generation, "\n".intercalate (generation.moduleLines {} none) ++ "\n", generated, ?_, same⟩
  rw [Generation.render, unrepeated]

/-- The conversion from `B` to `A`, whose name is shadowed in other functions, has its own target. -/
theorem Generation.shadows_target_iff_shadowScope :
    (∀ schema ∈ shadowScope, schema.WellNamed) ∧
    ∃ generation text, Scope.generate {} shadowScope = .ok generation ∧
      (∀ name ∈ (none : Option String), '\n' ∉ name.toList) ∧
      generation.render {} none = .ok text ∧
      ⟨.convert, "B", "A", []⟩ ∈ generation.operations ∧
      ∃ function, function? (functions text) "a_from_b" = some function ∧
        ¬ function.Shadows (functions text) "A" := by
  obtain ⟨generation, text, generated, rendered, same⟩ := render_shadowScope
  have oneLine : ∀ name ∈ (none : Option String), '\n' ∉ name.toList := by simp
  have member : ⟨.convert, "B", "A", []⟩ ∈ generation.operations := by
    rw [same]
    decide
  obtain ⟨function, found, -, -, snake⟩ :=
    shadows_target_iff wellNamed_shadowScope generated oneLine rendered member rfl
  refine ⟨wellNamed_shadowScope, generation, text, generated, oneLine, rendered, member, function,
    found, fun shadowed => ?_⟩
  exact absurd (snake shadowed 'A' List.mem_cons_self) (by decide)

/-- A conversion to the schema that is called like a function and one to `lhs` build what they do not
name. -/
theorem Generation.shadowed_shadowScope : (∀ schema ∈ shadowScope, schema.WellNamed) ∧
    ∃ generation text, Scope.generate {} shadowScope = .ok generation ∧
      generation.render {} none = .ok text ∧
      ∀ target ∈ ["a_from_b", "lhs"], ⟨.convert, "A", target, []⟩ ∈ generation.operations ∧
        ∃ function, function? (functions text)
            (Operation.functionName {} ⟨.convert, "A", target, []⟩) = some function ∧
          function.body.head?.bind Line.ofChars = some ⟨4, .build target⟩ ∧
          function.Shadows (functions text) target := by
  obtain ⟨generation, text, generated, rendered, same⟩ := render_shadowScope
  have settingsNamed : ({} : Settings).WellNamed :=
    ⟨List.all_eq_true.1 (by decide), List.all_eq_true.1 (by decide)⟩
  have named : ∀ operation ∈ generation.operations, operation.Named := by
    rw [same]
    exact fun operation => Scope.named_of_mem_operations wellNamed_shadowScope
  have members : ∀ target ∈ ["a_from_b", "lhs"],
      (⟨.convert, "A", target, []⟩ : Operation) ∈ generation.operations := by
    rw [same]
    decide
  have bound : ∀ target ∈ ["a_from_b", "lhs"],
      target ∈ ["lhs", "rhs"] ∨ target ∈ generation.functionNames {} := by
    rw [functionNames, same]
    decide
  refine ⟨wellNamed_shadowScope, generation, text, generated, rendered, fun target targetIn => ?_⟩
  have member := members target targetIn
  refine ⟨member, _, function?_render settingsNamed (by decide) named rendered member,
    Operation.head?_function (named _ member) rfl {} _, ?_⟩
  exact (shadows_iff settingsNamed (by decide) named
    (isWord_of_mem_schemas wellNamed_shadowScope generated) (by simp) rendered member rfl target).2
      (bound target targetIn)

end Fieldwise
