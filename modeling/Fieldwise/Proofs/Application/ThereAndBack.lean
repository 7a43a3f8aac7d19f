import Fieldwise.Proofs.Application.Moves

/-! # There and back

A record gives its values to a record of another schema and then takes values back. What it has
given comes back as it was, and where an optional field had nothing to give, it takes over what the
other record holds. So present values are never lost, and afterwards the two records agree in all
corresponding fields, whence a second trip changes neither (`SchemaIndex.there_and_back`). -/

namespace Fieldwise

/-- A field that corresponds to a field of another schema. -/
def Field.SharedWith (marker : String) (field : Field) (schema : Schema) : Prop :=
  ∃ other ∈ schema.fields, field.Agrees marker other

/-- What a record holds after a trip: shared fields that had nothing to give take the value of the
other record, and all other fields are as before. -/
structure Schema.Returned (marker : String) (schema other : Schema)
    (before partner after : Record) : Prop where
  filled : ∀ field ∈ schema.fields, field.SharedWith marker other →
    (field.type.shape marker).optional → before.fields.lookup field.name = some .null →
      after.fields.lookup field.name = partner.fields.lookup field.name
  kept : ∀ name, (∀ field ∈ schema.fields, field.name = name → field.SharedWith marker other →
    (field.type.shape marker).optional → before.fields.lookup field.name ≠ some .null) →
      after.fields.lookup name = before.fields.lookup name

section

variable {marker : String} {schema other : Schema} {assignments : List Correspondence}

/-- What a field gives is written into the fields that agree with it. -/
theorem LastFiring.lookup_of_gives (matched : schema.Matched marker other assignments)
    (indexable : other.Indexable) {source before after : Record}
    (ran : LastFiring assignments source before after) {field otherField : Field}
    (fieldIn : field ∈ schema.fields) (otherIn : otherField ∈ other.fields)
    (agrees : field.Agrees marker otherField) (gives : field.Gives marker source) :
    after.fields.lookup field.name = source.fields.lookup field.name := by
  have member : field.correspondence marker otherField ∈ assignments :=
    (matched.mem_iff _).2 ⟨field, fieldIn, otherField, otherIn, agrees, rfl⟩
  have written := ran.lookup_of_mem (matched.ordered.nodup indexable) member
    ((Field.fires_correspondence_iff agrees source).2 gives)
  rwa [Field.correspondence, ← agrees.1] at written

/-- A name under which no shared field gives a value is not written. -/
theorem LastFiring.lookup_of_silent (matched : schema.Matched marker other assignments)
    {source before after : Record} (ran : LastFiring assignments source before after)
    {name : String}
    (silent : ∀ field ∈ schema.fields, field.name = name → field.SharedWith marker other →
      ¬ field.Gives marker source) :
    after.fields.lookup name = before.fields.lookup name := by
  refine ran.kept name fun assignment member named fires => ?_
  obtain ⟨field, fieldIn, otherField, otherIn, agrees, rfl⟩ := (matched.mem_iff assignment).1 member
  exact silent field fieldIn (agrees.1.trans named) ⟨otherField, otherIn, agrees⟩
    ((Field.fires_correspondence_iff agrees source).1 fires)

/-- Names are distinct, so no other field is written where one has nothing to give. -/
theorem LastFiring.lookup_of_not_gives (matched : schema.Matched marker other assignments)
    (indexable : schema.Indexable) {source before after : Record}
    (ran : LastFiring assignments source before after) {field : Field}
    (fieldIn : field ∈ schema.fields) (silent : ¬ field.Gives marker source) :
    after.fields.lookup field.name = before.fields.lookup field.name := by
  refine ran.lookup_of_silent matched fun other otherIn named _ => ?_
  rwa [List.inj_on_of_nodup_map indexable otherIn fieldIn named]

/-- A record that holds a schema still does after any run. -/
theorem Schema.HeldBy.leaveAll {record : Record} (held : schema.HeldBy record) (source : Record)
    (assignments : List Correspondence) :
    schema.HeldBy (leaveAll source assignments record) where
  defined field member := isSome_lookup_leaveAll (held.defined field member)
  accepted field member := accepts_leaveAll (held.accepted field member) source assignments

end

section

variable {marker : String} {schema other : Schema} {out back : List Correspondence}
  (sent : schema.Matched marker other out) (returned : other.Matched marker schema back)
  (indexable : schema.Indexable) (otherIndexable : other.Indexable)
  {before partner met after : Record} (going : LastFiring out before partner met)
  (coming : LastFiring back met before after)

include sent returned indexable otherIndexable going coming

/-- Two fields that agree hold the same value after the trip: the one that was given, or else the
one that the partner held. -/
theorem lookup_of_trip {field otherField : Field} (fieldIn : field ∈ schema.fields)
    (otherIn : otherField ∈ other.fields) (agrees : field.Agrees marker otherField) :
    after.fields.lookup field.name = met.fields.lookup field.name ∧
      (field.Gives marker before →
        after.fields.lookup field.name = before.fields.lookup field.name) ∧
      (¬ field.Gives marker before →
        after.fields.lookup field.name = partner.fields.lookup field.name) := by
  have taken : otherField.Gives marker met →
      after.fields.lookup field.name = met.fields.lookup field.name := by
    rw [agrees.1]
    exact coming.lookup_of_gives returned indexable otherIn fieldIn agrees.symm
  have kept : ¬ otherField.Gives marker met →
      after.fields.lookup field.name = before.fields.lookup field.name := by
    rw [agrees.1]
    exact coming.lookup_of_not_gives returned otherIndexable otherIn
  by_cases gave : field.Gives marker before
  · have given := going.lookup_of_gives sent otherIndexable fieldIn otherIn agrees gave
    have same : after.fields.lookup field.name = before.fields.lookup field.name := by
      by_cases gives : otherField.Gives marker met
      · exact (taken gives).trans given
      · exact kept gives
    exact ⟨same.trans given.symm, fun _ => same, fun silent => absurd gave silent⟩
  · have unwritten := going.lookup_of_not_gives sent indexable fieldIn gave
    have same : after.fields.lookup field.name = met.fields.lookup field.name := by
      by_cases gives : otherField.Gives marker met
      · exact taken gives
      · -- Neither has a value to give, so both are null.
        rw [kept gives]
        rw [Field.Gives, not_or, not_not] at gave gives
        rw [gave.2, agrees.1, gives.2]
    exact ⟨same, fun gives => absurd gives gave, fun _ => same.trans unwritten⟩

/-- What a record holds after the trip. -/
theorem returned_of_trip : schema.Returned marker other before partner after where
  filled field fieldIn shared optional null := by
    obtain ⟨otherField, otherIn, agrees⟩ := shared
    refine (lookup_of_trip sent returned indexable otherIndexable going coming fieldIn otherIn
      agrees).2.2 ?_
    rintro (plain | present)
    · rw [optional] at plain
      cases plain
    · exact present null
  kept name apart := by
    by_cases shared : ∃ field ∈ schema.fields, field.name = name ∧ field.SharedWith marker other
    · obtain ⟨field, fieldIn, rfl, otherField, otherIn, agrees⟩ := shared
      refine (lookup_of_trip sent returned indexable otherIndexable going coming fieldIn otherIn
        agrees).2.1 ?_
      cases optional : (field.type.shape marker).optional with
      | false => exact .inl optional
      | true => exact .inr (apart field fieldIn rfl ⟨otherField, otherIn, agrees⟩ optional)
    · refine coming.lookup_of_silent returned fun otherField otherIn named back => ?_
      obtain ⟨field, fieldIn, agrees⟩ := back
      exact absurd
        ⟨field, fieldIn, agrees.1.symm.trans named, otherField, otherIn, agrees.symm⟩ shared

/-- After the trip every further one changes nothing, in either direction. -/
theorem settled_of_trip : leaveAll after out met = met ∧ leaveAll met back after = after := by
  constructor
  · refine leaveAll_of_settled fun assignment member _ => ?_
    obtain ⟨field, fieldIn, otherField, otherIn, agrees, rfl⟩ := (sent.mem_iff assignment).1 member
    have same := (lookup_of_trip sent returned indexable otherIndexable going coming fieldIn otherIn
      agrees).1
    rw [agrees.1] at same
    exact same.symm
  · refine leaveAll_of_settled fun assignment member _ => ?_
    obtain ⟨otherField, otherIn, field, fieldIn, agrees, rfl⟩ :=
      (returned.mem_iff assignment).1 member
    exact (lookup_of_trip sent returned indexable otherIndexable going coming fieldIn otherIn
      agrees.symm).1

end

/-- Between records that hold two schemas, a trip there and back fills the optional fields that had
nothing to give, and changes nothing else in the first record. No present value is lost, and a
second trip changes neither record. -/
theorem SchemaIndex.there_and_back (first second : SchemaIndex)
    (sameMarker : first.marker = second.marker) {a b : Record} (firstHeld : first.schema.HeldBy a)
    (secondHeld : second.schema.HeldBy b) :
    ∃ a' b', (Operation.move first second).applyMove b a = ⟨b', none⟩ ∧
      (Operation.move second first).applyMove a b' = ⟨a', none⟩ ∧
      first.schema.Returned first.marker second.schema a b a' ∧
      (∀ name value, value.isPresent → a.fields.lookup name = some value →
        a'.fields.lookup name = some value) ∧
      (Operation.move first second).applyMove b' a' = ⟨b', none⟩ ∧
      (Operation.move second first).applyMove a' b' = ⟨a', none⟩ := by
  have sent := resolve_matched sameMarker
  rw [← sameMarker] at sent
  have returned := resolve_matched sameMarker.symm
  have goingFeasible := sent.feasible firstHeld secondHeld
  have metHeld := secondHeld.leaveAll a (first.resolve second)
  have comingFeasible := returned.feasible metHeld firstHeld
  have afterHeld := firstHeld.leaveAll (leaveAll a (first.resolve second) b) (second.resolve first)
  have trip := returned_of_trip sent returned first.distinct second.distinct
    goingFeasible.lastFiring comingFeasible.lastFiring
  obtain ⟨settledThere, settledBack⟩ := settled_of_trip sent returned first.distinct second.distinct
    goingFeasible.lastFiring comingFeasible.lastFiring
  refine ⟨_, _, Operation.applyMove_eq rfl goingFeasible, Operation.applyMove_eq rfl comingFeasible,
    trip, ?_, ?_, ?_⟩
  · intro name value present found
    refine (trip.kept name ?_).trans found
    rintro field - rfl - - null
    rw [found, Option.some.injEq] at null
    rw [null] at present
    cases present
  · rw [Operation.applyMove_eq rfl (sent.feasible afterHeld metHeld)]
    exact congrArg (Applied.mk · none) settledThere
  · rw [Operation.applyMove_eq rfl (returned.feasible metHeld afterHeld)]
    exact congrArg (Applied.mk · none) settledBack

/-- The absent `x` is filled, and `y` comes back from the field that was absent before. -/
theorem SchemaIndex.there_and_back_filled :
    let first : SchemaIndex :=
      ⟨⟨"A", [⟨"x", .mk "Optional" [.bare "int"]⟩, ⟨"y", .bare "int"⟩], false⟩, "Optional",
        by decide⟩
    let second : SchemaIndex :=
      ⟨⟨"B", [⟨"y", .mk "Optional" [.bare "int"]⟩, ⟨"x", .bare "int"⟩], false⟩, "Optional",
        by decide⟩
    let a : Record := ⟨.attributes, "A", [("x", .null), ("y", .whole 1)]⟩
    let b : Record := ⟨.slots, "B", [("y", .null), ("x", .whole 5)]⟩
    first.marker = second.marker ∧ first.schema.HeldBy a ∧ second.schema.HeldBy b ∧
      ∃ a' b', (Operation.move first second).applyMove b a = ⟨b', none⟩ ∧
        (Operation.move second first).applyMove a b' = ⟨a', none⟩ ∧
        a'.fields.lookup "x" = some (.whole 5) ∧ a'.fields.lookup "y" = some (.whole 1) ∧
        (Operation.move first second).applyMove b' a' = ⟨b', none⟩ ∧
        (Operation.move second first).applyMove a' b' = ⟨a', none⟩ := by
  intro first second a b
  have firstHeld : first.schema.HeldBy a :=
    ⟨by decide, List.forall_mem_cons.2
      ⟨.attributes rfl, List.forall_mem_singleton.2 (.attributes rfl)⟩⟩
  have secondHeld : second.schema.HeldBy b :=
    ⟨by decide, List.forall_mem_cons.2
      ⟨.slots rfl rfl, List.forall_mem_singleton.2 (.slots rfl rfl)⟩⟩
  obtain ⟨a', b', there, back, trip, present, again⟩ :=
    there_and_back first second rfl firstHeld secondHeld
  have shared : (⟨"x", .mk "Optional" [.bare "int"]⟩ : Field).SharedWith "Optional" second.schema :=
    ⟨⟨"x", .bare "int"⟩, by decide, by decide⟩
  exact ⟨rfl, firstHeld, secondHeld, a', b', there, back,
    trip.filled ⟨"x", .mk "Optional" [.bare "int"]⟩ List.mem_cons_self shared (by decide) rfl,
    present "y" (.whole 1) rfl rfl, again⟩

end Fieldwise
