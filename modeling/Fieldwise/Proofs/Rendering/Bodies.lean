import Fieldwise.Proofs.Rendering.Spelling
import Fieldwise.Rendering

/-! # Rendered operations as headers and bodies

The lines of an operation's function are the spelling of one header and of the lines of one body
(`Operation.lines_eq`). Running the lines of assignments is carrying the assignments out
(`runLines_assignments`), wherever the lines stand. -/

namespace Fieldwise

open Rendered

def Correspondence.body (indent : Nat) (assignment : Correspondence) : List Line :=
  if assignment.kind.requiresPresence then
    [⟨indent, .guard assignment.sourceField⟩,
      ⟨indent + indent, .assign assignment.targetField assignment.sourceField⟩]
  else [⟨indent, .assign assignment.targetField assignment.sourceField⟩]

namespace Operation

def assignmentLines (indent : Nat) (operation : Operation) : List Line :=
  operation.correspondences.flatMap (Correspondence.body indent)

def moveLines (indent : Nat) (operation : Operation) : List Line :=
  match operation.assignmentLines indent with
  | [] => [⟨indent, .pass⟩]
  | lines => lines

/-- The lines of a conversion, given the name of the move that it calls. -/
def conversionLines (indent : Nat) (moveName : Option String) (operation : Operation) : List Line :=
  ⟨indent, .build operation.targetSchema⟩ ::
    ((match moveName with
      | some name => [⟨indent, .call name⟩]
      | none => operation.assignmentLines indent) ++ [⟨indent, .leave⟩])

/-- The lines of a body, given the name of the move that a conversion calls. -/
def body (indent : Nat) (moveName : Option String) (operation : Operation) : List Line :=
  match operation.kind with
  | .move => operation.moveLines indent
  | .convert => operation.conversionLines indent moveName

def header (settings : Settings) (operation : Operation) : Header :=
  match operation.kind with
  | .move =>
    .move (operation.functionName settings) operation.targetSchema operation.sourceSchema
  | .convert =>
    .conversion (operation.functionName settings) operation.sourceSchema operation.targetSchema

end Operation

def Settings.width (settings : Settings) : Nat :=
  settings.indent.toNat

theorem Settings.toList_pad (settings : Settings) :
    settings.pad.toList = List.replicate settings.width ' ' := by
  rw [pad, String.toList_ofList, width]

/-! ## Lines as spellings -/

theorem Correspondence.lines_eq (settings : Settings) (assignment : Correspondence) :
    (assignment.lines settings.pad).map String.toList =
      (assignment.body settings.width).map Line.spell := by
  have deeper (rest : List Char) : List.replicate (settings.width + settings.width) ' ' ++ rest =
      List.replicate settings.width ' ' ++ (List.replicate settings.width ' ' ++ rest) := by
    rw [← List.replicate_append_replicate, List.append_assoc]
  rw [lines, body]
  split <;>
    simp [Line.spell, Statement.pieces, Piece.chars, Settings.toList_pad, deeper]

theorem Operation.assignmentLines_eq (settings : Settings) (operation : Operation) :
    (operation.correspondences.flatMap (Correspondence.lines settings.pad)).map String.toList =
      (operation.assignmentLines settings.width).map Line.spell := by
  rw [assignmentLines]
  induction operation.correspondences with
  | nil => rfl
  | cons assignment rest ih =>
    rw [List.flatMap_cons, List.flatMap_cons, List.map_append, List.map_append, ih,
      Correspondence.lines_eq]

theorem Operation.moveLines_eq (settings : Settings) (operation : Operation) :
    (operation.moveBody settings.pad).map String.toList =
      (operation.moveLines settings.width).map Line.spell := by
  have same := assignmentLines_eq settings operation
  have pass : (settings.pad ++ "pass").toList = (⟨settings.width, .pass⟩ : Line).spell := by
    simp [Line.spell, Statement.pieces, Piece.chars, Settings.toList_pad]
  rw [moveBody, moveLines]
  split
  · rename_i none
    rw [none, List.map_nil, eq_comm, List.map_eq_nil_iff] at same
    rw [same, List.map_singleton, List.map_singleton, pass]
  · rename_i some_text
    split
    · rename_i none
      rw [none, List.map_nil, List.map_eq_nil_iff] at same
      exact (some_text same).elim
    · exact same

theorem Operation.conversionLines_eq (settings : Settings) (moveName : Option String)
    (operation : Operation) : (operation.conversionBody settings.pad moveName).map String.toList =
      (operation.conversionLines settings.width moveName).map Line.spell := by
  have same := assignmentLines_eq settings operation
  cases moveName with
  | none =>
    simp [conversionBody, conversionLines, same, Line.spell, Statement.pieces, Piece.chars,
      Settings.toList_pad]
  | some name =>
    simp [conversionBody, conversionLines, Line.spell, Statement.pieces, Piece.chars,
      Settings.toList_pad]

/-- The lines of a function are the spellings of its header and of its body. -/
theorem Operation.lines_eq (settings : Settings) (moveName : String → String → Option String)
    (operation : Operation) : (operation.lines settings moveName).map String.toList =
      (operation.header settings).spell :: (operation.body settings.width
        (moveName operation.sourceSchema operation.targetSchema)).map Line.spell := by
  cases kind : operation.kind with
  | move =>
    simp only [lines, header, body, kind, List.map_cons, moveLines_eq]
    simp [Header.spell, Header.pieces, Piece.chars]
  | convert =>
    simp only [lines, header, body, kind, List.map_cons, conversionLines_eq]
    simp [Header.spell, Header.pieces, Piece.chars]

/-! ## Words and indentation -/

/-- Both fields of an assignment are words. -/
def Correspondence.Named (assignment : Correspondence) : Prop :=
  IsWord assignment.sourceField ∧ IsWord assignment.targetField

structure Operation.Named (operation : Operation) : Prop where
  source : IsWord operation.sourceSchema
  target : IsWord operation.targetSchema
  assignments : ∀ assignment ∈ operation.correspondences, assignment.Named

theorem Correspondence.named_body {assignment : Correspondence} (named : assignment.Named)
    (indent : Nat) : ∀ line ∈ assignment.body indent, line.Named := by
  rw [body]
  split <;> simp [Line.Named, Statement.names, named.1, named.2]

theorem Correspondence.indented_body (assignment : Correspondence) {indent : Nat}
    (positive : 0 < indent) : ∀ line ∈ assignment.body indent, 0 < line.indent := by
  have deeper : 0 < indent + indent := Nat.add_pos_left positive indent
  rw [body]
  split <;> simp [positive, deeper]

theorem Operation.named_assignmentLines {operation : Operation} (named : operation.Named)
    (indent : Nat) : ∀ line ∈ operation.assignmentLines indent, line.Named := by
  intro line member
  obtain ⟨assignment, assignmentMember, member⟩ := List.mem_flatMap.1 member
  exact Correspondence.named_body (named.assignments assignment assignmentMember) indent line member

theorem Operation.indented_assignmentLines (operation : Operation) {indent : Nat}
    (positive : 0 < indent) : ∀ line ∈ operation.assignmentLines indent, 0 < line.indent := by
  intro line member
  obtain ⟨assignment, -, member⟩ := List.mem_flatMap.1 member
  exact assignment.indented_body positive line member

/-- What holds of the lines of the assignments and of the lines around them holds of a whole body. -/
theorem Operation.forall_body {motive : Line → Prop} {operation : Operation} {indent : Nat}
    {moveName : Option String}
    (assignments : ∀ line ∈ operation.assignmentLines indent, motive line)
    (pass : motive ⟨indent, .pass⟩) (build : motive ⟨indent, .build operation.targetSchema⟩)
    (call : ∀ name ∈ moveName, motive ⟨indent, .call name⟩) (leave : motive ⟨indent, .leave⟩) :
    ∀ line ∈ operation.body indent moveName, motive line := by
  cases kind : operation.kind with
  | move =>
    rw [body.eq_def, kind]
    dsimp only
    rw [moveLines]
    split
    · exact List.forall_mem_singleton.2 pass
    · exact assignments
  | convert =>
    rw [body.eq_def, kind]
    dsimp only
    rw [conversionLines.eq_def, List.forall_mem_cons, List.forall_mem_append]
    refine ⟨build, ?_, List.forall_mem_singleton.2 leave⟩
    cases moveName with
    | some name => exact List.forall_mem_singleton.2 (call name rfl)
    | none => exact assignments

theorem Operation.named_body {operation : Operation} (named : operation.Named) (indent : Nat)
    {moveName : Option String} (calls : ∀ name ∈ moveName, IsWord name) :
    ∀ line ∈ operation.body indent moveName, line.Named :=
  forall_body (named_assignmentLines named indent) (List.forall_mem_nil _)
    (List.forall_mem_singleton.2 named.target)
    (fun name same => List.forall_mem_singleton.2 (calls name same)) (List.forall_mem_nil _)

theorem Operation.indented_body (operation : Operation) {indent : Nat} (positive : 0 < indent)
    (moveName : Option String) : ∀ line ∈ operation.body indent moveName, 0 < line.indent :=
  forall_body (operation.indented_assignmentLines positive) positive positive
    (fun _ _ => positive) positive

/-! ## Running assignments -/

variable {around : Surroundings} {indent : Nat}

/-- The lines of one assignment carry it out. -/
theorem runLines_assignment (positive : 0 < indent) (assignment : Correspondence) (lhs : Record)
    (rest : List Line) : runLines around indent (some lhs) (assignment.body indent ++ rest) =
      match assignment.apply (around.rhs lhs) lhs with
      | .ok next => runLines around indent (some next) rest
      | .error error => some ⟨lhs, some error⟩ := by
  have deeper : indent < indent + indent := Nat.lt_add_of_pos_left positive
  rw [Correspondence.body, Correspondence.apply]
  split
  · rename_i required
    rw [List.cons_append, List.singleton_append, runLines, if_pos ⟨rfl, deeper⟩]
    cases found : (around.rhs lhs).read assignment.sourceField with
    | error _ => simp [found, bind, Except.bind]
    | ok value =>
      cases present : value.isPresent with
      | false => simp [found, required, present, bind, Except.bind, pure, Except.pure]
      | true =>
        cases written : lhs.write assignment.targetField value with
        | error _ => simp [found, required, present, written, Statement.step, bind, Except.bind]
        | ok _ => simp [found, required, present, written, Statement.step, bind, Except.bind]
  · rename_i unconditional
    rw [List.singleton_append, runLines, if_pos rfl]
    · cases found : (around.rhs lhs).read assignment.sourceField with
      | error _ => simp [found, Statement.step, bind, Except.bind]
      | ok value =>
        cases written : lhs.write assignment.targetField value with
        | error _ => simp [found, unconditional, written, Statement.step, bind, Except.bind]
        | ok _ => simp [found, unconditional, written, Statement.step, bind, Except.bind]
    · intro _ _ _ _ same
      cases same

/-- The lines of assignments carry them out in order, up to the first that fails. -/
theorem runLines_assignments (positive : 0 < indent) (assignments : List Correspondence)
    (lhs : Record) (rest : List Line) : runLines around indent (some lhs)
      (assignments.flatMap (Correspondence.body indent) ++ rest) =
        match applyAll around.rhs lhs assignments with
        | ⟨target, none⟩ => runLines around indent (some target) rest
        | ⟨target, some error⟩ => some ⟨target, some error⟩ := by
  induction assignments generalizing lhs with
  | nil => rfl
  | cons assignment others ih =>
    rw [List.flatMap_cons, List.append_assoc, runLines_assignment positive, applyAll]
    cases assignment.apply (around.rhs lhs) lhs with
    | error _ => rfl
    | ok next => exact ih next

end Fieldwise
