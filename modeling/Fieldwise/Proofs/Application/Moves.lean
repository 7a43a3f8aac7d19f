import Fieldwise.Proofs.Application.LastWrite
import Fieldwise.Proofs.Scope.Resolution
import Mathlib.Data.List.Induction
import Mathlib.Logic.Function.Basic

/-! # Moves between records, and within one

A second run from the same source changes nothing (`leaveAll_leaveAll`), although the first one may
write a field many times. Records that are alive together are known by name, and two names may stand
for one record: a move changes the target only (`Operation.moveAmong_of_ne`), and a record that is
moved into itself stays as it is. `Operation.applyMove_lastFiring` collects what moves do. -/

namespace Fieldwise

section

variable {assignment : Correspondence} {assignments : List Correspondence}
  {source target : Record}

/-! ## Repeated runs -/

/-- A run changes nothing if all that it writes is there already. -/
theorem leaveAll_of_settled
    (settled : ∀ assignment ∈ assignments, assignment.Fires source →
      target.fields.lookup assignment.targetField = source.fields.lookup assignment.sourceField) :
    leaveAll source assignments target = target := by
  induction assignments with
  | nil => rfl
  | cons assignment rest ih =>
    obtain ⟨settledFirst, settledRest⟩ := List.forall_mem_cons.1 settled
    have first : assignment.leave source target = target := by
      rw [Correspondence.leave]
      split
      · rename_i value written
        obtain ⟨fires, found⟩ := Correspondence.written?_eq_some_iff.1 written
        exact Record.put_of_lookup ((settledFirst fires).trans found)
      · rfl
    rw [leaveAll_cons, first]
    exact ih settledRest

/-- What has been there before a run is there after it. -/
theorem isSome_lookup_leaveAll {name : String} (present : (target.fields.lookup name).isSome) :
    ((leaveAll source assignments target).fields.lookup name).isSome := by
  induction assignments generalizing target with
  | nil => exact present
  | cons assignment rest ih =>
    rw [leaveAll_cons]
    apply ih
    rw [Correspondence.leave]
    split
    · exact Record.isSome_lookup_put present _ _
    · exact present

/-- Whatever is written in a run is there after it. -/
theorem isSome_lookup_leaveAll_of_written (member : assignment ∈ assignments)
    (written : (assignment.written? source).isSome) :
    ((leaveAll source assignments target).fields.lookup assignment.targetField).isSome := by
  obtain ⟨earlier, later, rfl⟩ := List.append_of_mem member
  obtain ⟨value, written⟩ := Option.isSome_iff_exists.1 written
  rw [leaveAll_append, leaveAll_cons]
  apply isSome_lookup_leaveAll
  rw [Correspondence.lookup_leave, if_pos rfl, written, Option.some_or]
  rfl

/-- A write before a run into fields that are there is forgotten if it is made again after it. -/
theorem put_leaveAll_put (name : String) (value later : Datum)
    (present : ∀ assignment ∈ assignments, (assignment.written? source).isSome →
      (target.fields.lookup assignment.targetField).isSome) :
    (leaveAll source assignments (target.put name value)).put name later =
      (leaveAll source assignments target).put name later := by
  induction assignments generalizing target with
  | nil => exact Record.put_put target name value later
  | cons assignment rest ih =>
    obtain ⟨presentFirst, presentRest⟩ := List.forall_mem_cons.1 present
    rw [leaveAll_cons, leaveAll_cons, Correspondence.leave, Correspondence.leave]
    cases written : assignment.written? source with
    | none => exact ih presentRest
    | some found =>
      rw [written] at presentFirst
      dsimp only
      by_cases same : assignment.targetField = name
      · rw [same, Record.put_put]
      · rw [← Record.put_comm same found value (presentFirst rfl)]
        exact ih fun other member wrote =>
          Record.isSome_lookup_put (presentRest other member wrote) _ _

/-- Running the same assignments again from the same source changes nothing. -/
theorem leaveAll_leaveAll (source : Record) (assignments : List Correspondence) (target : Record) :
    leaveAll source assignments (leaveAll source assignments target) =
      leaveAll source assignments target := by
  -- The last assignment is made in both runs, so what it does in the first one is forgotten.
  induction assignments using List.reverseRecOn with
  | nil => rfl
  | append_singleton earlier last ih =>
    have split (record : Record) : leaveAll source (earlier ++ [last]) record =
        last.leave source (leaveAll source earlier record) := leaveAll_append _ _ _ _
    rw [split, split, Correspondence.leave, Correspondence.leave]
    cases last.written? source with
    | none => exact ih
    | some value =>
      dsimp only
      rw [put_leaveAll_put, ih]
      exact fun assignment => isSome_lookup_leaveAll_of_written

/-! ## A record moved into itself -/

/-- Assigning a field of a record to itself changes nothing. -/
theorem Correspondence.leave_self (sameName : assignment.sourceField = assignment.targetField)
    (record : Record) : assignment.leave record record = record := by
  rw [leave]
  split
  · rename_i value written
    have found := (written?_eq_some_iff.1 written).2
    rw [sameName] at found
    exact Record.put_of_lookup found
  · rfl

theorem applyAll_self {record : Record}
    (sameNames : ∀ assignment ∈ assignments, assignment.sourceField = assignment.targetField)
    (feasible : Feasible assignments record record) :
    applyAll id record assignments = ⟨record, none⟩ := by
  induction assignments with
  | nil => rfl
  | cons assignment rest ih =>
    obtain ⟨sameName, restNames⟩ := List.forall_mem_cons.1 sameNames
    obtain ⟨applied, restFeasible⟩ := feasible.of_cons
    rw [Correspondence.leave_self sameName] at applied restFeasible
    rw [applyAll, id_eq, applied]
    exact ih restNames restFeasible

end

/-! ## Records known by name -/

/-- Carries out assignments among live records: one is read and one is written, and both names may
stand for the same record. -/
def applyAmong (source target : String) (live : String → Record) :
    List Correspondence → (String → Record) × Option ApplicationError
  | [] => (live, none)
  | assignment :: rest =>
    match assignment.apply (live source) (live target) with
    | .ok next => applyAmong source target (Function.update live target next) rest
    | .error error => (live, some error)

def Operation.moveAmong (operation : Operation) (target source : String)
    (live : String → Record) : (String → Record) × Option ApplicationError :=
  if operation.kind = .move then applyAmong source target live operation.correspondences
  else (live, some (.wrongKind .move operation.kind))

/-- Among live records only the target changes, as it does alone if `read` tells what the source is
while the target has a certain state. -/
theorem applyAmong_eq {source target : String} {live : String → Record} {read : Record → Record}
    (reads : ∀ record, Function.update live target record source = read record)
    (assignments : List Correspondence) :
    applyAmong source target live assignments =
      (Function.update live target (applyAll read (live target) assignments).target,
        (applyAll read (live target) assignments).error) := by
  induction assignments generalizing live with
  | nil => rw [applyAmong, applyAll, Function.update_eq_self]
  | cons assignment rest ih =>
    have here : read (live target) = live source := by
      rw [← reads, Function.update_eq_self]
    rw [applyAmong, applyAll, here]
    cases assignment.apply (live source) (live target) with
    | error error =>
      dsimp only
      rw [Function.update_eq_self]
    | ok next =>
      dsimp only
      rw [ih fun record => by rw [Function.update_idem, reads], Function.update_self,
        Function.update_idem]

namespace Operation

theorem moveAmong_of_ne (operation : Operation) {target source : String} (apart : source ≠ target)
    (live : String → Record) : operation.moveAmong target source live =
      (Function.update live target (operation.applyMove (live target) (live source)).target,
        (operation.applyMove (live target) (live source)).error) := by
  rw [moveAmong, applyMove, applyAs]
  split
  · exact applyAmong_eq (fun record => Function.update_of_ne apart record live) _
  · rw [Function.update_eq_self]

theorem moveAmong_self (operation : Operation) (name : String) (live : String → Record) :
    operation.moveAmong name name live =
      (Function.update live name (operation.applySelfMove (live name)).target,
        (operation.applySelfMove (live name)).error) := by
  rw [moveAmong, applySelfMove, applyAs]
  split
  · exact applyAmong_eq (fun record => Function.update_self name record live) _
  · rw [Function.update_eq_self]

/-- A move that cannot fail leaves what its assignments leave. -/
theorem applyMove_eq {operation : Operation} (moves : operation.kind = .move)
    {target source : Record} (feasible : Feasible operation.correspondences source target) :
    operation.applyMove target source =
      ⟨leaveAll source operation.correspondences target, none⟩ := by
  rw [applyMove, applyAs, if_pos moves, feasible.applyAll_eq]

end Operation

/-! ## Moves that were built for two schemas -/

/-- Whether a record has a value of a field to give: an optional field must be present. -/
def Field.Gives (marker : String) (field : Field) (record : Record) : Prop :=
  (field.type.shape marker).optional = false ∨ record.fields.lookup field.name ≠ some .null

/-- A correspondence fires exactly if its source field gives a value. -/
theorem Field.fires_correspondence_iff {marker : String} {source target : Field}
    (agrees : source.Agrees marker target) (record : Record) :
    (source.correspondence marker target).Fires record ↔ source.Gives marker record := by
  rw [Correspondence.Fires, correspondence, MatchKind.requiresPresence_ofOptional, Gives, agrees.1]

/-- A record holds a schema if it defines all fields of the schema and takes writes to them. -/
structure Schema.HeldBy (schema : Schema) (record : Record) : Prop where
  defined : ∀ field ∈ schema.fields, (record.fields.lookup field.name).isSome
  accepted : ∀ field ∈ schema.fields, record.Accepts field.name

/-- A correspondence reads and writes one name, which both schemas declare. -/
theorem Schema.Matched.names {marker : String} {source target : Schema}
    {assignments : List Correspondence} (matched : source.Matched marker target assignments)
    {assignment : Correspondence} (member : assignment ∈ assignments) :
    assignment.sourceField = assignment.targetField ∧
      (∃ field ∈ source.fields, field.name = assignment.sourceField) ∧
      ∃ field ∈ target.fields, field.name = assignment.targetField := by
  obtain ⟨sourceField, sourceIn, targetField, targetIn, agrees, rfl⟩ :=
    (matched.mem_iff assignment).1 member
  exact ⟨rfl, ⟨sourceField, sourceIn, agrees.1⟩, targetField, targetIn, rfl⟩

/-- Moves between records that hold the schemas do not fail. -/
theorem Schema.Matched.feasible {marker : String} {source target : Schema}
    {assignments : List Correspondence} (matched : source.Matched marker target assignments)
    {record other : Record} (sourceHeld : source.HeldBy record) (targetHeld : target.HeldBy other) :
    Feasible assignments record other where
  defined assignment member := by
    obtain ⟨-, ⟨field, fieldIn, named⟩, -⟩ := matched.names member
    exact named ▸ sourceHeld.defined field fieldIn
  accepted assignment member _ := by
    obtain ⟨-, -, field, fieldIn, named⟩ := matched.names member
    exact named ▸ targetHeld.accepted field fieldIn

/-- A move writes the last value that fires into each field, and nothing else changes among live
records, the source included; moving again from the same source changes nothing. A move that was
built for two schemas may assign in any order, and the one of a schema with itself changes nothing
when a record is moved into itself. -/
theorem Operation.applyMove_lastFiring :
    (∀ (operation : Operation) (live : String → Record) (target source : String),
      operation.kind = .move → source ≠ target →
      Feasible operation.correspondences (live source) (live target) →
        ∃ after, operation.applyMove (live target) (live source) = ⟨after, none⟩ ∧
          LastFiring operation.correspondences (live source) (live target) after ∧
          operation.moveAmong target source live = (Function.update live target after, none) ∧
          operation.applyMove after (live source) = ⟨after, none⟩) ∧
    (∀ (first second : SchemaIndex) (order : List Correspondence) (target source : Record),
      order.Perm (first.resolve second) → Feasible (first.resolve second) source target →
        ∃ after reordered,
          (Operation.move first second).applyMove target source = ⟨after, none⟩ ∧
          (⟨.move, first.name, second.name, order⟩ : Operation).applyMove target source =
            ⟨reordered, none⟩ ∧ reordered.Alike after) ∧
    ∀ (index : SchemaIndex) (live : String → Record) (name : String),
      index.schema.HeldBy (live name) →
        (Operation.move index index).applySelfMove (live name) = ⟨live name, none⟩ ∧
          (Operation.move index index).moveAmong name name live = (live, none) := by
  refine ⟨?_, ?_, ?_⟩
  · intro operation live target source moves apart feasible
    have once := applyMove_eq moves feasible
    refine ⟨_, once, feasible.lastFiring, ?_, ?_⟩
    · rw [moveAmong_of_ne operation apart, once]
    · rw [applyMove_eq moves feasible.again, leaveAll_leaveAll]
  · intro first second order target source reordered feasible
    have distinct : ((first.resolve second).map (·.targetField)).Nodup :=
      (SchemaIndex.resolve_ordered first second).nodup second.distinct
    have feasibleOrder : Feasible order source target :=
      ⟨fun other member => feasible.defined other (reordered.mem_iff.1 member),
        fun other member => feasible.accepted other (reordered.mem_iff.1 member)⟩
    exact ⟨_, _, applyMove_eq rfl feasible, applyMove_eq rfl feasibleOrder,
      feasible.lastFiring.alike distinct reordered feasibleOrder.lastFiring⟩
  · intro index live name held
    have matched : index.schema.Matched index.marker index.schema (index.resolve index) :=
      SchemaIndex.resolve_matched rfl
    have kept : (Operation.move index index).applySelfMove (live name) = ⟨live name, none⟩ := by
      rw [applySelfMove, applyAs, if_pos (by rfl)]
      exact applyAll_self (fun assignment member => (matched.names member).1)
        (matched.feasible held held)
    exact ⟨kept, by rw [moveAmong_self, kept, Function.update_eq_self]⟩

/-- Three assignments to one field, of which the last does not fire; then the same record as the
target of a move that is made in two orders, and moved into itself. -/
theorem Operation.applyMove_lastFiring_repeated :
    let operation : Operation := ⟨.move, "B", "A",
      [⟨"a", "x", .plainToPlain⟩, ⟨"b", "x", .optionalToPlain⟩, ⟨"c", "x", .optionalToOptional⟩]⟩
    let source : Record := ⟨.mapping, "B", [("a", .whole 1), ("b", .whole 2), ("c", .null)]⟩
    let target : Record := ⟨.slots, "A", [("x", .null), ("y", .flag true)]⟩
    let live : String → Record := fun name => if name = "source" then source else target
    let index : SchemaIndex :=
      ⟨⟨"A", [⟨"x", .mk "Optional" [.bare "int"]⟩, ⟨"y", .bare "bool"⟩], true⟩, "Optional",
        by decide⟩
    let order : List Correspondence := [⟨"y", "y", .plainToPlain⟩, ⟨"x", "x", .optionalToOptional⟩]
    Feasible operation.correspondences source target ∧
      (∃ after, operation.applyMove target source = ⟨after, none⟩ ∧
        after.fields.lookup "x" = some (.whole 2) ∧
        after.fields.lookup "y" = some (.flag true) ∧
        operation.moveAmong "target" "source" live = (Function.update live "target" after, none) ∧
        operation.applyMove after source = ⟨after, none⟩) ∧
      (order.Perm (index.resolve index) ∧ index.schema.HeldBy target ∧
        ∃ after reordered, (Operation.move index index).applyMove target target = ⟨after, none⟩ ∧
          (⟨.move, "A", "A", order⟩ : Operation).applyMove target target = ⟨reordered, none⟩ ∧
            reordered.Alike after) ∧
      (Operation.move index index).applySelfMove target = ⟨target, none⟩ := by
  intro operation source target live index order
  have feasible : Feasible operation.correspondences source target := by
    refine ⟨by decide, List.forall_mem_cons.2 ⟨fun _ => .slots rfl rfl, ?_⟩⟩
    exact List.forall_mem_cons.2
      ⟨fun _ => .slots rfl rfl, List.forall_mem_singleton.2 fun _ => .slots rfl rfl⟩
  have held : index.schema.HeldBy target := by
    refine ⟨by decide, List.forall_mem_cons.2 ⟨.slots rfl rfl, ?_⟩⟩
    exact List.forall_mem_singleton.2 (.slots rfl rfl)
  have reordered : order.Perm (index.resolve index) := by decide
  have matched : index.schema.Matched index.marker index.schema (index.resolve index) :=
    SchemaIndex.resolve_matched rfl
  obtain ⟨after, ran, last, among, again⟩ :=
    applyMove_lastFiring.1 operation live "target" "source" rfl (by decide) feasible
  refine ⟨feasible, ⟨after, ran, ?_, ?_, among, again⟩, ⟨reordered, held, ?_⟩, ?_⟩
  · refine last.written [⟨"a", "x", .plainToPlain⟩] ⟨"b", "x", .optionalToPlain⟩
      [⟨"c", "x", .optionalToOptional⟩] rfl (.inr nofun) ?_
    refine List.forall_mem_singleton.2 fun _ fires => ?_
    rcases fires with plain | present
    · cases plain
    · exact present rfl
  · have elsewhere : ∀ assignment ∈ operation.correspondences, assignment.targetField ≠ "y" := by
      decide
    exact last.kept "y" fun assignment member named => absurd named (elsewhere assignment member)
  · exact applyMove_lastFiring.2.1 index index order target target reordered
      (matched.feasible held held)
  · exact (applyMove_lastFiring.2.2 index live "target" held).1

end Fieldwise
