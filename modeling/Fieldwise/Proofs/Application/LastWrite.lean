import Fieldwise.Proofs.Application.Assignments

/-! # The last write wins

A run from a source that defines all that is read, into a target that takes all that is written,
does not fail (`Feasible.applyAll_eq`). Each field then holds what the last assignment to it that
fired has read, or what it held before (`Feasible.lastFiring`). Where no field is assigned twice,
the order of the assignments does not matter (`LastFiring.alike`). -/

namespace Fieldwise

/-- Two records that differ at most in the order of their fields. -/
structure Record.Alike (first second : Record) : Prop where
  access : first.access = second.access
  typeName : first.typeName = second.typeName
  fields : ∀ name, first.fields.lookup name = second.fields.lookup name

/-! ## Runs that do not fail -/

/-- The source defines all that some assignments read, and the target takes all that they write. -/
structure Feasible (assignments : List Correspondence) (source target : Record) : Prop where
  defined : ∀ assignment ∈ assignments, (source.fields.lookup assignment.sourceField).isSome
  accepted : ∀ assignment ∈ assignments, assignment.Fires source →
    target.Accepts assignment.targetField

/-- Where a run from a source leads: a field holds what the last assignment to it that fires reads,
and a field to which none fires is as before. -/
structure LastFiring (assignments : List Correspondence) (source before after : Record) : Prop where
  written : ∀ earlier assignment later, assignments = earlier ++ assignment :: later →
    assignment.Fires source →
    (∀ other ∈ later, other.targetField = assignment.targetField → ¬ other.Fires source) →
      after.fields.lookup assignment.targetField = source.fields.lookup assignment.sourceField
  kept : ∀ name, (∀ assignment ∈ assignments, assignment.targetField = name →
    ¬ assignment.Fires source) → after.fields.lookup name = before.fields.lookup name
  access : after.access = before.access
  typeName : after.typeName = before.typeName

def leaveAll (source : Record) (assignments : List Correspondence) (target : Record) : Record :=
  assignments.foldl (fun record assignment => assignment.leave source record) target

section

variable {assignment : Correspondence} {assignments : List Correspondence}
  {source target : Record}

/-- The first assignment of such a run does not fail, nor do the others after it. -/
theorem Feasible.of_cons (feasible : Feasible (assignment :: assignments) source target) :
    assignment.apply source target = .ok (assignment.leave source target) ∧
      Feasible assignments source (assignment.leave source target) := by
  obtain ⟨defined, restDefined⟩ := List.forall_mem_cons.1 feasible.defined
  obtain ⟨accepted, restAccepted⟩ := List.forall_mem_cons.1 feasible.accepted
  exact ⟨Correspondence.apply_of_defined defined accepted, restDefined,
    fun other member fires => Correspondence.accepts_leave (restAccepted other member fires)⟩

/-- A run that cannot fail leaves what all its assignments leave. -/
theorem Feasible.applyAll_eq (feasible : Feasible assignments source target) :
    applyAll (fun _ => source) target assignments = ⟨leaveAll source assignments target, none⟩ := by
  induction assignments generalizing target with
  | nil => rfl
  | cons assignment rest ih =>
    obtain ⟨applied, restFeasible⟩ := feasible.of_cons
    rw [applyAll, applied]
    exact ih restFeasible

theorem leaveAll_cons (source : Record) (assignment : Correspondence) (rest : List Correspondence)
    (target : Record) :
    leaveAll source (assignment :: rest) target =
      leaveAll source rest (assignment.leave source target) :=
  rfl

theorem leaveAll_append (source : Record) (first second : List Correspondence) (target : Record) :
    leaveAll source (first ++ second) target =
      leaveAll source second (leaveAll source first target) :=
  List.foldl_append

theorem access_leaveAll (source : Record) (assignments : List Correspondence) (target : Record) :
    (leaveAll source assignments target).access = target.access := by
  induction assignments generalizing target with
  | nil => rfl
  | cons assignment rest ih => exact (ih _).trans Correspondence.access_leave

theorem typeName_leaveAll (source : Record) (assignments : List Correspondence) (target : Record) :
    (leaveAll source assignments target).typeName = target.typeName := by
  induction assignments generalizing target with
  | nil => rfl
  | cons assignment rest ih => exact (ih _).trans Correspondence.typeName_leave

theorem accepts_leaveAll {name : String} (accepted : target.Accepts name) (source : Record)
    (assignments : List Correspondence) :
    (leaveAll source assignments target).Accepts name := by
  induction assignments generalizing target with
  | nil => exact accepted
  | cons assignment rest ih => exact ih (Correspondence.accepts_leave accepted)

/-- A run that cannot fail cannot fail again. -/
theorem Feasible.again (feasible : Feasible assignments source target) :
    Feasible assignments source (leaveAll source assignments target) where
  defined := feasible.defined
  accepted assignment member fires :=
    accepts_leaveAll (feasible.accepted assignment member fires) source assignments

/-- A field to which no assignment fires stays as it is. -/
theorem lookup_leaveAll_of_silent {name : String}
    (silent : ∀ assignment ∈ assignments, assignment.targetField = name →
      ¬ assignment.Fires source) :
    (leaveAll source assignments target).fields.lookup name = target.fields.lookup name := by
  induction assignments generalizing target with
  | nil => rfl
  | cons assignment rest ih =>
    obtain ⟨silentFirst, silentRest⟩ := List.forall_mem_cons.1 silent
    refine (ih silentRest).trans ?_
    rw [Correspondence.lookup_leave]
    split
    · rename_i named
      rw [Correspondence.written?_of_not_fires (silentFirst named.symm), Option.none_or]
    · rfl

/-- A run that cannot fail ends with the last writes. -/
theorem Feasible.lastFiring (feasible : Feasible assignments source target) :
    LastFiring assignments source target (leaveAll source assignments target) where
  written := by
    rintro earlier assignment later rfl fires silent
    have defined := feasible.defined assignment (List.mem_append_right _ List.mem_cons_self)
    obtain ⟨value, found⟩ := Option.isSome_iff_exists.1 defined
    rw [leaveAll_append]
    refine (lookup_leaveAll_of_silent silent).trans ?_
    rw [Correspondence.lookup_leave, if_pos rfl,
      Correspondence.written?_eq_some_iff.2 ⟨fires, found⟩, found, Option.some_or]
  kept _ := lookup_leaveAll_of_silent
  access := access_leaveAll source assignments target
  typeName := typeName_leaveAll source assignments target

/-! ## Runs into distinct fields -/

/-- Where no field is assigned twice, a field holds what its assignment reads if that fires. -/
theorem LastFiring.lookup_of_mem {before after : Record}
    (ran : LastFiring assignments source before after)
    (distinct : (assignments.map (·.targetField)).Nodup) (member : assignment ∈ assignments)
    (fires : assignment.Fires source) :
    after.fields.lookup assignment.targetField = source.fields.lookup assignment.sourceField := by
  obtain ⟨earlier, later, rfl⟩ := List.append_of_mem member
  refine ran.written earlier assignment later rfl fires fun other otherIn same => ?_
  rw [List.map_append, List.map_cons] at distinct
  have fresh := (List.nodup_cons.1 (List.nodup_append.1 distinct).2.1).1
  exact absurd (same ▸ List.mem_map_of_mem otherIn) fresh

/-- Where no field is assigned twice, the order of the assignments does not matter. -/
theorem LastFiring.alike {others : List Correspondence} {before first second : Record}
    (distinct : (assignments.map (·.targetField)).Nodup) (reordered : others.Perm assignments)
    (ran : LastFiring assignments source before first)
    (ranOther : LastFiring others source before second) : second.Alike first where
  access := ranOther.access.trans ran.access.symm
  typeName := ranOther.typeName.trans ran.typeName.symm
  fields name := by
    by_cases written : ∃ assignment ∈ assignments, assignment.targetField = name ∧
        assignment.Fires source
    · obtain ⟨assignment, member, rfl, fires⟩ := written
      have distinctOthers := (reordered.map (·.targetField)).nodup_iff.2 distinct
      rw [ran.lookup_of_mem distinct member fires,
        ranOther.lookup_of_mem distinctOthers (reordered.mem_iff.2 member) fires]
    · push Not at written
      rw [ran.kept name written,
        ranOther.kept name fun other member => written other (reordered.mem_iff.1 member)]

end

end Fieldwise
