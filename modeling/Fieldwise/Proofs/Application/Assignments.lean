import Fieldwise.Application
import Fieldwise.Proofs.KeyedLists

/-! # What assignments leave behind

An assignment either keeps its target or puts one value into one field of it
(`Correspondence.eq_of_apply`). It fails only where the source lacks what is read or the target does
not take what is written (`Correspondence.apply_of_defined`). So after a run, complete or not, every
field holds what it held before or what an assignment to it has written (`lookup_applyAll`). -/

namespace Fieldwise

namespace Record

variable {record next : Record} {name : String} {value : Datum} {fields : List (String × Datum)}

/-! ## Reading and writing a field -/

theorem lookup_putField (name : String) (value : Datum) (fields : List (String × Datum))
    (other : String) : (putField name value fields).lookup other =
      if other = name then some value else fields.lookup other := by
  induction fields with
  | nil => exact lookup_cons_eq_ite other name value []
  | cons field rest ih =>
    obtain ⟨first, held⟩ := field
    rw [putField]
    split
    · rename_i same
      rw [lookup_cons_eq_ite, lookup_cons_eq_ite, show first = name from same]
      split <;> rfl
    · rename_i differ
      rw [lookup_cons_eq_ite, lookup_cons_eq_ite, ih]
      split
      · rename_i here
        rw [if_neg fun named => differ (here ▸ named)]
      · rfl

theorem lookup_put (record : Record) (name : String) (value : Datum) (other : String) :
    (record.put name value).fields.lookup other =
      if other = name then some value else record.fields.lookup other :=
  lookup_putField name value record.fields other

/-- Writing what a field holds changes nothing. -/
theorem putField_of_lookup (found : fields.lookup name = some value) :
    putField name value fields = fields := by
  induction fields with
  | nil => cases found
  | cons field rest ih =>
    obtain ⟨first, held⟩ := field
    rw [lookup_cons_eq_ite] at found
    rw [putField]
    split
    · rename_i same
      rw [if_pos (Eq.symm same)] at found
      rw [← Option.some.inj found, show first = name from same]
    · rename_i differ
      rw [if_neg fun same => differ (Eq.symm same)] at found
      rw [ih found]

/-- Of two writes to one field the second stays. -/
theorem putField_putField (name : String) (value later : Datum) (fields : List (String × Datum)) :
    putField name later (putField name value fields) = putField name later fields := by
  induction fields with
  | nil => simp [putField]
  | cons field rest ih =>
    by_cases same : field.1 = name
    · simp [putField, same]
    · simp [putField, same, ih]

/-- Writes to two fields commute if one of the fields is there: only new ones go to the end. -/
theorem putField_comm {other : String} (differ : name ≠ other) (value otherValue : Datum)
    (present : (fields.lookup name).isSome) :
    putField other otherValue (putField name value fields) =
      putField name value (putField other otherValue fields) := by
  induction fields with
  | nil => cases present
  | cons field rest ih =>
    obtain ⟨first, held⟩ := field
    rw [lookup_cons_eq_ite] at present
    by_cases here : first = name
    · simp [putField, here, differ]
    · rw [if_neg (Ne.symm here)] at present
      by_cases there : first = other
      · simp [putField, there, differ.symm]
      · simp [putField, here, there, ih present]

theorem put_of_lookup (found : record.fields.lookup name = some value) :
    record.put name value = record := by
  rw [put, putField_of_lookup found]

theorem put_put (record : Record) (name : String) (value later : Datum) :
    (record.put name value).put name later = record.put name later := by
  rw [put, put, put, putField_putField]

theorem put_comm {other : String} (differ : name ≠ other) (value otherValue : Datum)
    (present : (record.fields.lookup name).isSome) :
    (record.put name value).put other otherValue =
      (record.put other otherValue).put name value := by
  rw [put, put, put, put, putField_comm differ value otherValue present]

theorem read_eq_ok_iff : record.read name = .ok value ↔ record.fields.lookup name = some value := by
  rw [read]
  split
  · rename_i found same
    rw [same, Except.ok.injEq, Option.some.injEq]
  · rename_i missing
    rw [missing]
    split <;> simp

/-- A write that succeeds puts its value. -/
theorem eq_put_of_write (written : record.write name value = .ok next) :
    next = record.put name value := by
  unfold write at written
  split at written
  · exact (Except.ok.inj written).symm
  · exact (Except.ok.inj written).symm
  · split at written
    · exact (Except.ok.inj written).symm
    · cases written
  · cases written
  · cases written

/-- A record takes a write to a field if it takes all writes, or if it has the field and its fields
are fixed. -/
inductive Accepts (record : Record) (name : String) : Prop
  | mapping (access : record.access = .mapping)
  | attributes (access : record.access = .attributes)
  | slots (access : record.access = .slots) (present : (record.fields.lookup name).isSome)

theorem Accepts.write (accepted : record.Accepts name) (value : Datum) :
    record.write name value = .ok (record.put name value) := by
  cases accepted with
  | mapping access => rw [Record.write, access]
  | attributes access => rw [Record.write, access]
  | slots access present => rw [Record.write, access, if_pos present]

/-- Writing keeps what is there. -/
theorem isSome_lookup_put (present : (record.fields.lookup name).isSome) (other : String)
    (value : Datum) : ((record.put other value).fields.lookup name).isSome := by
  rw [lookup_put]
  split
  · rfl
  · exact present

/-- A record that takes a write to a field still takes it after any other write. -/
theorem Accepts.put (accepted : record.Accepts name) (other : String) (value : Datum) :
    (record.put other value).Accepts name := by
  cases accepted with
  | mapping access => exact .mapping access
  | attributes access => exact .attributes access
  | slots access present => exact .slots access (isSome_lookup_put present other value)

end Record

/-! ## One assignment -/

namespace Correspondence

def written? (assignment : Correspondence) (source : Record) : Option Datum :=
  (source.fields.lookup assignment.sourceField).filter fun value =>
    !assignment.kind.requiresPresence || value.isPresent

/-- An assignment fires unless it requires presence and reads an absent value. -/
def Fires (assignment : Correspondence) (source : Record) : Prop :=
  assignment.kind.requiresPresence = false ∨
    source.fields.lookup assignment.sourceField ≠ some .null

/-- The target after an assignment that succeeds. -/
def leave (assignment : Correspondence) (source target : Record) : Record :=
  match assignment.written? source with
  | some value => target.put assignment.targetField value
  | none => target

variable {assignment : Correspondence} {source target next : Record}

theorem lookup_leave (assignment : Correspondence) (source target : Record) (name : String) :
    (assignment.leave source target).fields.lookup name =
      if name = assignment.targetField then
        (assignment.written? source).or (target.fields.lookup name)
      else target.fields.lookup name := by
  rw [leave]
  split
  · rename_i value written
    rw [Record.lookup_put, written, Option.some_or]
  · rename_i unwritten
    rw [unwritten, Option.none_or, ite_self]

/-- What one assignment does, if it does not fail. -/
theorem eq_of_apply (applied : assignment.apply source target = .ok next) :
    next = assignment.leave source target := by
  rw [apply] at applied
  cases found : source.read assignment.sourceField with
  | error _ =>
    rw [found] at applied
    cases applied
  | ok value =>
    simp only [found, bind, Except.bind, pure, Except.pure] at applied
    rw [leave, written?, Record.read_eq_ok_iff.1 found]
    split at applied
    · rename_i skipped
      obtain ⟨required, absent⟩ := Bool.and_eq_true_iff.1 skipped
      simp only [Option.filter, required, Bool.not_true, Bool.false_or]
      rw [if_neg (by simpa using absent)]
      exact (Except.ok.inj applied).symm
    · rename_i kept
      have kept : (!assignment.kind.requiresPresence || value.isPresent) = true := by
        cases required : assignment.kind.requiresPresence <;> simp_all
      simp only [Option.filter, kept, if_true]
      exact Record.eq_put_of_write applied

/-- An assignment writes what it reads exactly if it fires. -/
theorem written?_eq_some_iff {value : Datum} : assignment.written? source = some value ↔
    assignment.Fires source ∧ source.fields.lookup assignment.sourceField = some value := by
  rw [written?, Option.filter_eq_some_iff, Fires, and_comm]
  refine and_congr_left fun found => ?_
  have present : value.isPresent ↔ value ≠ .null := by cases value <;> simp [Datum.isPresent]
  rw [found, Bool.or_eq_true, Bool.not_eq_true', present, ne_eq, ne_eq, Option.some.injEq]

theorem written?_of_not_fires (silent : ¬ assignment.Fires source) :
    assignment.written? source = none :=
  Option.eq_none_iff_forall_ne_some.2 fun _ written => silent (written?_eq_some_iff.1 written).1

/-- An assignment fails only where the source lacks the field or the target does not take what is
written. -/
theorem apply_of_defined (defined : (source.fields.lookup assignment.sourceField).isSome)
    (accepted : assignment.Fires source → target.Accepts assignment.targetField) :
    assignment.apply source target = .ok (assignment.leave source target) := by
  obtain ⟨value, found⟩ := Option.isSome_iff_exists.1 defined
  cases applied : assignment.apply source target with
  | ok next => rw [eq_of_apply applied]
  | error _ =>
    rw [apply, Record.read_eq_ok_iff.2 found] at applied
    simp only [bind, Except.bind, pure, Except.pure] at applied
    split at applied
    · cases applied
    · rename_i kept
      have fires : assignment.Fires source := by
        rw [Fires, found]
        cases required : assignment.kind.requiresPresence with
        | false => exact .inl rfl
        | true =>
          refine .inr ?_
          rintro ⟨⟩
          exact kept (by rw [required]; rfl)
      rw [(accepted fires).write] at applied
      cases applied

theorem accepts_leave {name : String} (accepted : target.Accepts name) :
    (assignment.leave source target).Accepts name := by
  rw [leave]
  split
  · exact accepted.put _ _
  · exact accepted

theorem access_leave : (assignment.leave source target).access = target.access := by
  rw [leave]
  split <;> rfl

theorem typeName_leave : (assignment.leave source target).typeName = target.typeName := by
  rw [leave]
  split <;> rfl

end Correspondence

/-! ## Runs, complete or not -/

/-- After a run, complete or not, a field holds what it held before or what an assignment to it has
written. -/
theorem lookup_applyAll (source target : Record) (assignments : List Correspondence)
    (name : String) :
    let after := (applyAll (fun _ => source) target assignments).target
    after.fields.lookup name = target.fields.lookup name ∨
      ∃ assignment ∈ assignments, assignment.targetField = name ∧
        ∃ value, assignment.written? source = some value ∧
          after.fields.lookup name = some value := by
  induction assignments generalizing target with
  | nil => exact .inl rfl
  | cons assignment rest ih =>
    rw [applyAll]
    split
    · rename_i next applied
      rcases ih next with kept | ⟨other, member, written⟩
      · rw [Correspondence.eq_of_apply applied, Correspondence.lookup_leave] at kept
        split at kept
        · rename_i named
          cases written : assignment.written? source with
          | some value =>
            rw [written, Option.some_or] at kept
            exact .inr ⟨assignment, List.mem_cons_self, named.symm, value, written,
              by rw [← kept, Correspondence.eq_of_apply applied]⟩
          | none =>
            rw [written, Option.none_or] at kept
            exact .inl (by rw [← kept, Correspondence.eq_of_apply applied])
        · exact .inl (by rw [← kept, Correspondence.eq_of_apply applied])
      · exact .inr ⟨other, List.mem_cons_of_mem _ member, written⟩
    · exact .inl rfl

end Fieldwise
