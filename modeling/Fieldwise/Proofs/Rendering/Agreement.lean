import Fieldwise.Proofs.Rendering.Modules
import Fieldwise.Proofs.Schema.Names
import Fieldwise.Proofs.Scope.Emission

/-! # Rendered functions do what their operations do

Running the function of an operation leaves exactly what carrying the operation out leaves, errors
included. A conversion that calls the move of its pair and one that assigns by itself agree, because
both operations of a pair have the same assignments. -/

namespace Fieldwise

open Rendered

/-! ## Running bodies -/

section

variable {around : Surroundings} {indent : Nat}

theorem Correspondence.head_body (indent : Nat) (assignment : Correspondence) :
    ∃ first rest, assignment.body indent = first :: rest ∧ first.indent = indent := by
  rw [body]
  split <;> exact ⟨_, _, rfl, rfl⟩

theorem Operation.correspondences_of_assignmentLines {operation : Operation}
    (none : operation.assignmentLines indent = []) : operation.correspondences = [] := by
  rw [assignmentLines, List.flatMap_eq_nil_iff] at none
  refine List.eq_nil_iff_forall_not_mem.2 fun assignment member => ?_
  obtain ⟨first, rest, same, -⟩ := assignment.head_body indent
  rw [none assignment member] at same
  cases same

/-- Every body begins at its indentation. -/
theorem Operation.head_body (indent : Nat) (moveName : Option String) (operation : Operation) :
    ∃ first rest, operation.body indent moveName = first :: rest ∧ first.indent = indent := by
  cases kind : operation.kind with
  | convert =>
    rw [body.eq_def, kind]
    exact ⟨_, _, rfl, rfl⟩
  | move =>
    rw [body.eq_def, kind]
    dsimp only
    rw [moveLines]
    split
    · exact ⟨_, _, rfl, rfl⟩
    · rename_i some_line
      cases assignments : operation.correspondences with
      | nil =>
        rw [assignmentLines, assignments] at some_line
        exact (some_line rfl).elim
      | cons assignment others =>
        obtain ⟨first, rest, same, atIndent⟩ := assignment.head_body indent
        rw [assignmentLines, assignments, List.flatMap_cons, same]
        exact ⟨_, _, rfl, atIndent⟩

/-- The body of a move carries out its assignments on `lhs`. -/
theorem runLines_moveLines (positive : 0 < indent) (operation : Operation) (lhs : Record) :
    runLines around indent (some lhs) (operation.moveLines indent) =
      some (applyAll around.rhs lhs operation.correspondences) := by
  rw [Operation.moveLines]
  split
  · rename_i none
    rw [Operation.correspondences_of_assignmentLines none, runLines, if_pos rfl]
    · rfl
    · intro _ _ _ _ same
      cases same
  · rw [Operation.assignmentLines, ← List.append_nil (List.flatMap _ _),
      runLines_assignments positive]
    cases applyAll around.rhs lhs operation.correspondences with
    | mk target error => cases error <;> rfl

theorem runLines_leave (lhs : Record) :
    runLines around indent (some lhs) [⟨indent, .leave⟩] = some ⟨lhs, none⟩ := by
  rw [runLines, if_pos rfl]
  · rfl
  · intro _ _ _ _ same
    cases same

theorem runLines_build (type : String) (lhs : Option Record) (rest : List Line) :
    runLines around indent lhs (⟨indent, .build type⟩ :: rest) =
      runLines around indent (some (around.default type)) rest := by
  rw [runLines, if_pos rfl]
  · rfl
  · intro _ _ _ _ same
    cases same

/-- A conversion without a move to call carries out the assignments on the default target. -/
theorem runLines_conversionLines_inlined (positive : 0 < indent) (operation : Operation)
    (lhs : Option Record) : runLines around indent lhs (operation.conversionLines indent none) =
      some (applyAll around.rhs (around.default operation.targetSchema)
        operation.correspondences) := by
  rw [Operation.conversionLines, runLines_build, Operation.assignmentLines,
    runLines_assignments positive]
  cases applyAll around.rhs (around.default operation.targetSchema) operation.correspondences with
  | mk target error =>
    cases error with
    | none => exact runLines_leave target
    | some _ => rfl

/-- A conversion that calls a move leaves what the move leaves of the default target. -/
theorem runLines_conversionLines_called (operation : Operation) (lhs : Option Record)
    {name : String} {applied : Applied}
    (called : around.call name (around.default operation.targetSchema) = some applied) :
    runLines around indent lhs (operation.conversionLines indent (some name)) = some applied := by
  rw [Operation.conversionLines, runLines_build, List.singleton_append, runLines, if_pos rfl]
  · cases applied with
    | mk target error =>
      cases error with
      | none =>
        simp only [Statement.step, called, bind, pure, Option.bind_some]
        exact runLines_leave target
      | some _ => simp [Statement.step, called]
  · intro _ _ _ _ same
    cases same

end

/-! ## Running functions -/

/-- Running the function of a name runs the lines of its body. -/
theorem Rendered.run_of_function? {functions : List Function} {header : Header}
    {lines : List Line} {name : String} {indent : Nat}
    (found : function? functions name = some ⟨header, lines.map Line.spell⟩)
    (named : ∀ line ∈ lines, line.Named)
    (begins : ∃ first rest, lines = first :: rest ∧ first.indent = indent)
    (rhs : Record → Record) (default : String → Record) (depth : Nat) {lhs : Option Record}
    (takes : header.takesTarget = lhs.isSome) :
    run functions rhs default (depth + 1) name lhs = runLines
      ⟨rhs, default, fun callee record => run functions rhs default depth callee (some record)⟩
      indent lhs lines := by
  obtain ⟨first, rest, rfl, rfl⟩ := begins
  simp only [run, found, bind, Option.bind_some, Line.mapM_ofChars_spell named, List.head?_cons]
  rw [if_pos takes]

variable {options : GenerationOptions} {schemas : List Schema} {settings : Settings}
  {origin : Option String} {generation : Generation} {text : String}

/-- The operations of well-named schemas name words only. -/
theorem Scope.named_of_mem_operations (wellNamed : ∀ schema ∈ schemas, schema.WellNamed)
    {operation : Operation}
    (member : operation ∈ operations options (indexed options.marker schemas)) :
    operation.Named := by
  obtain ⟨source, target, ⟨sourceIn, sourceMarker⟩, ⟨targetIn, targetMarker⟩, kind, -, rfl⟩ :=
    (mem_operations_indexed_iff operation).1 member
  refine ⟨isWord_of_isFieldName (wellNamed _ sourceIn).name,
    isWord_of_isFieldName (wellNamed _ targetIn).name, fun assignment assignmentIn => ?_⟩
  have matched := SchemaIndex.resolve_matched (sourceMarker.trans targetMarker.symm)
  obtain ⟨-, -, field, fieldIn, -, rfl⟩ := (matched.mem_iff assignment).1 assignmentIn
  have word := isWord_of_isFieldName ((wellNamed _ targetIn).fields field fieldIn)
  exact ⟨word, word⟩

namespace Generation

/-- The schemas of a generation from well-named schemas are named by words. -/
theorem isWord_of_mem_schemas (wellNamed : ∀ schema ∈ schemas, schema.WellNamed)
    (generated : Scope.generate options schemas = .ok generation) :
    ∀ name ∈ generation.schemas, IsWord name := by
  rw [Scope.schemas_of_generate generated]
  refine List.forall_mem_map.2 fun index member => ?_
  exact isWord_of_isFieldName (wellNamed _ ((Scope.mem_indexed_iff index).1 member).1).name

/-- The move whose name a conversion calls is that of the same pair. -/
theorem moveName?_eq_some {name source target : String}
    (found : generation.moveName? settings source target = some name) :
    ∃ move ∈ generation.operations, move.kind = .move ∧ move.sourceSchema = source ∧
      move.targetSchema = target ∧ move.functionName settings = name := by
  obtain ⟨move, selected, rfl⟩ := Option.map_eq_some_iff.1 found
  have accepted := List.find?_some selected
  rw [isFor, Bool.and_eq_true, Bool.and_eq_true, beq_iff_eq, beq_iff_eq, beq_iff_eq] at accepted
  exact ⟨move, List.mem_of_find?_eq_some selected, accepted.1.1, accepted.1.2, accepted.2, rfl⟩

section

variable (wellNamed : settings.WellNamed) (indented : 1 ≤ settings.indent)
  (named : ∀ operation ∈ generation.operations, operation.Named)
  (rendered : generation.render settings origin = .ok text)
  (rhs : Record → Record) (default : String → Record)

include wellNamed indented named rendered

/-- Running the function of an operation runs the lines of its body. -/
theorem run_function {operation : Operation} (member : operation ∈ generation.operations)
    (depth : Nat) {lhs : Option Record} (takes : (operation.kind = .move) = lhs.isSome) :
    run (functions text) rhs default (depth + 1) (operation.functionName settings) lhs =
      runLines ⟨rhs, default, fun callee record =>
          run (functions text) rhs default depth callee (some record)⟩
        settings.width lhs (operation.body settings.width
          (generation.moveName? settings operation.sourceSchema operation.targetSchema)) := by
  refine run_of_function? (function?_render wellNamed indented named rendered member)
    (named_bodyLines wellNamed generation (named operation member))
    (operation.head_body _ _) rhs default depth ?_
  cases kind : operation.kind <;> simp_all [Operation.header, Header.takesTarget]

/-- The function of a move carries the move out. -/
theorem run_move {operation : Operation} (member : operation ∈ generation.operations)
    (moves : operation.kind = .move) (depth : Nat) (target : Record) :
    run (functions text) rhs default (depth + 1) (operation.functionName settings) (some target) =
      some (operation.applyAs .move rhs target) := by
  have width : 0 < settings.width := by
    rw [Settings.width]
    omega
  rw [run_function wellNamed indented named rendered rhs default member depth (by simp [moves]),
    Operation.body.eq_def, moves]
  dsimp only
  rw [runLines_moveLines width, Operation.applyAs, if_pos moves]

/-- The function of a conversion carries the conversion out, by itself or by calling a move that
assigns the same. -/
theorem run_conversion {operation : Operation} (member : operation ∈ generation.operations)
    (converts : operation.kind = .convert)
    (moveAgrees : ∀ move ∈ generation.operations, move.sourceSchema = operation.sourceSchema →
      move.targetSchema = operation.targetSchema →
        move.correspondences = operation.correspondences) (depth : Nat) :
    run (functions text) rhs default (depth + 2) (operation.functionName settings) none =
      some (operation.applyAs .convert rhs (default operation.targetSchema)) := by
  have width : 0 < settings.width := by
    rw [Settings.width]
    omega
  rw [run_function wellNamed indented named rendered rhs default member (depth + 1)
    (by simp [converts]), Operation.body.eq_def, converts]
  dsimp only
  cases found : generation.moveName? settings operation.sourceSchema operation.targetSchema with
  | none => rw [runLines_conversionLines_inlined width, Operation.applyAs, if_pos converts]
  | some name =>
    obtain ⟨move, moveMember, moves, source, target, rfl⟩ := moveName?_eq_some found
    apply runLines_conversionLines_called
    dsimp only
    rw [run_move wellNamed indented named rendered rhs default moveMember moves, Operation.applyAs,
      Operation.applyAs, if_pos moves, if_pos converts,
      moveAgrees move moveMember source target]

end

end Generation

/-- Running the function of an operation in a rendered module leaves what the operation leaves, errors
included: for a move on any target, which may be the source itself, and for a conversion on the
default target, where it is also what the move of the pair leaves. -/
theorem Generation.run_render (wellNamed : ∀ schema ∈ schemas, schema.WellNamed)
    (generated : Scope.generate options schemas = .ok generation)
    (settingsNamed : settings.WellNamed) (indented : 1 ≤ settings.indent)
    (rendered : generation.render settings origin = .ok text) {operation : Operation}
    (member : operation ∈ generation.operations) (default : String → Record) {depth : Nat}
    (deep : 2 ≤ depth) :
    (operation.kind = .move → ∀ target source,
      run (functions text) (fun _ => source) default depth (operation.functionName settings)
        (some target) = some (operation.applyMove target source)) ∧
    (operation.kind = .move → ∀ record,
      run (functions text) id default depth (operation.functionName settings) (some record) =
        some (operation.applySelfMove record)) ∧
    (operation.kind = .convert → ∀ source,
      run (functions text) (fun _ => source) default depth (operation.functionName settings) none =
        some (operation.applyConversion source (default operation.targetSchema)) ∧
      ∀ sourceIndex ∈ Scope.indexed options.marker schemas,
        ∀ targetIndex ∈ Scope.indexed options.marker schemas,
          operation.sourceSchema = sourceIndex.name → operation.targetSchema = targetIndex.name →
            operation.applyConversion source (default operation.targetSchema) =
              (Operation.move sourceIndex targetIndex).applyMove (default operation.targetSchema)
                source) := by
  obtain ⟨distinct, same⟩ := Scope.operations_of_generate generated
  have named : ∀ operation ∈ generation.operations, operation.Named := by
    rw [same]
    exact fun operation => Scope.named_of_mem_operations wellNamed
  obtain ⟨depth, rfl⟩ := Nat.exists_eq_add_of_le' deep
  refine ⟨fun moves target source => ?_, fun moves record => ?_, fun converts source => ⟨?_, ?_⟩⟩
  · exact run_move settingsNamed indented named rendered _ default member moves (depth + 1) target
  · exact run_move settingsNamed indented named rendered _ default member moves (depth + 1) record
  · refine run_conversion settingsNamed indented named rendered _ default member converts ?_ depth
    intro move moveMember sourceNamed targetNamed
    rw [same] at member moveMember
    obtain ⟨sourceIndex, sourceIn, targetIndex, targetIn, kind, -, rfl⟩ :=
      (Scope.mem_operations_iff _ operation).1 member
    rw [Scope.correspondences_of_mem_operations distinct moveMember sourceIn targetIn sourceNamed
      targetNamed]
    rfl
  · intro sourceIndex sourceIn targetIndex targetIn sourceNamed targetNamed
    rw [same] at member
    rw [Operation.applyConversion, Operation.applyMove, Operation.applyAs, Operation.applyAs,
      if_pos converts, if_pos (show (Operation.move sourceIndex targetIndex).kind = .move from rfl),
      Scope.correspondences_of_mem_operations distinct member sourceIn targetIn sourceNamed
        targetNamed]
    rfl

/-- A conversion that calls the move of its pair, in a module that imports its schemas. -/
theorem Generation.run_render_a_from_b :
    let schemas : List Schema :=
      [⟨"A", [⟨"x", .bare "int"⟩], true⟩, ⟨"B", [⟨"x", .mk "Optional" [.bare "int"]⟩], false⟩]
    let settings : Settings := { selfMoves := false, indent := 2 }
    let assignment : Correspondence := ⟨"x", "x", .optionalToPlain⟩
    ∃ generation text, (∀ schema ∈ schemas, schema.WellNamed) ∧
      Scope.generate settings.generation schemas = .ok generation ∧ settings.WellNamed ∧
      generation.render settings (some "models") = .ok text ∧
      ⟨.convert, "B", "A", [assignment]⟩ ∈ generation.operations ∧
      ∀ default source, run (functions text) (fun _ => source) default 2 "a_from_b" none =
        some (applyAll (fun _ => source) (default "A") [assignment]) := by
  intro schemas settings assignment
  have wellNamed : ∀ schema ∈ schemas, schema.WellNamed := by
    refine List.forall_mem_cons.2 ⟨⟨by decide, by decide⟩, List.forall_mem_singleton.2 ?_⟩
    exact ⟨by decide, by decide⟩
  have settingsNamed : settings.WellNamed :=
    ⟨List.all_eq_true.1 (by decide), List.all_eq_true.1 (by decide)⟩
  obtain ⟨generation, generated, same⟩ : ∃ generation,
      Scope.generate settings.generation schemas = .ok generation ∧ generation.operations =
        [⟨.convert, "A", "A", [⟨"x", "x", .plainToPlain⟩]⟩, ⟨.move, "B", "A", [assignment]⟩,
          ⟨.convert, "B", "A", [assignment]⟩, ⟨.move, "A", "B", [⟨"x", "x", .plainToOptional⟩]⟩] :=
    ⟨_, Scope.generate_of_distinct rfl (by decide), by decide⟩
  have unrepeated : firstRepeat? (generation.functionNames settings) = none := by
    rw [functionNames, same]
    decide
  have rendered : generation.render settings (some "models") =
      .ok ("\n".intercalate (generation.moduleLines settings (some "models")) ++ "\n") := by
    rw [render, unrepeated]
  have member : ⟨.convert, "B", "A", [assignment]⟩ ∈ generation.operations := by
    rw [same]
    decide
  have name : Operation.functionName settings ⟨.convert, "B", "A", [assignment]⟩ = "a_from_b" := by
    decide
  refine ⟨generation, _, wellNamed, generated, settingsNamed, rendered, member, ?_⟩
  intro default source
  have converted := ((run_render wellNamed generated settingsNamed (by decide) rendered member
    default (Nat.le_refl 2)).2.2 rfl source).1
  rw [name] at converted
  exact converted

end Fieldwise
