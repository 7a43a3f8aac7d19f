import Fieldwise.Proofs.Scope.Resolution

/-! # Correspondence is an equivalence

Between schemas that are indexed under one marker, correspondence is reflexive, symmetric and
transitive on the fields of one name. The kinds follow: the opposite direction exchanges source and
target, and a detour over a third schema keeps the source of its first half and the target of its
second (`SchemaIndex.resolve_equivalence`). -/

namespace Fieldwise

/-- The kind of the opposite direction: source and target have changed places. -/
def MatchKind.reversed (kind : MatchKind) : MatchKind :=
  .ofOptional kind.wraps kind.requiresPresence

/-- The kind of a detour: its source is that of the first half, its target that of the second. -/
def MatchKind.through (first second : MatchKind) : MatchKind :=
  .ofOptional first.requiresPresence second.wraps

def Field.ownCorrespondence (marker : String) (field : Field) : Correspondence :=
  ⟨field.name, field.name,
    if (field.type.shape marker).optional then .optionalToOptional else .plainToPlain⟩

theorem MatchKind.reversed_reversed (kind : MatchKind) : kind.reversed.reversed = kind := by
  cases kind <;> rfl

theorem Field.correspondence_self (marker : String) (field : Field) :
    field.correspondence marker field = field.ownCorrespondence marker := by
  rw [correspondence, ownCorrespondence]
  cases (field.type.shape marker).optional <;> rfl

namespace SchemaIndex

variable {first second third : SchemaIndex} {name : String} {kind kind' : MatchKind}

/-- A field of a name is written with a kind if the name is declared on both sides with one type
inside the optional level, and then the kind is that of the matching table. -/
theorem mem_resolve_iff (sameMarker : first.marker = second.marker) :
    ⟨name, name, kind⟩ ∈ first.resolve second ↔
      ∃ source ∈ first.schema.fields, ∃ target ∈ second.schema.fields,
        source.Agrees second.marker target ∧ target.name = name ∧
          kind = .ofOptional (source.type.shape second.marker).optional
            (target.type.shape second.marker).optional := by
  rw [(resolve_matched sameMarker).mem_iff]
  constructor
  · rintro ⟨source, sourceIn, target, targetIn, agrees, same⟩
    simp only [Field.correspondence, Correspondence.mk.injEq] at same
    exact ⟨source, sourceIn, target, targetIn, agrees, same.1.symm, same.2.2⟩
  · rintro ⟨source, sourceIn, target, targetIn, agrees, rfl, rfl⟩
    exact ⟨source, sourceIn, target, targetIn, agrees, rfl⟩

/-- Every field of a schema corresponds to itself, and a schema has no other correspondences with
itself. -/
theorem resolve_self (index : SchemaIndex) :
    index.resolve index = index.schema.fields.map (Field.ownCorrespondence index.marker) := by
  rw [resolve, ← List.filterMap_eq_map]
  refine List.filterMap_congr fun field member => ?_
  refine (correspondence?_eq_some_iff rfl field _).2 ?_
  exact ⟨field, member, .refl _ _, (field.correspondence_self _).symm⟩

theorem reversed_mem_resolve (sameMarker : first.marker = second.marker)
    (member : ⟨name, name, kind⟩ ∈ first.resolve second) :
    ⟨name, name, kind.reversed⟩ ∈ second.resolve first := by
  obtain ⟨source, sourceIn, target, targetIn, agrees, rfl, rfl⟩ :=
    (mem_resolve_iff sameMarker).1 member
  refine (mem_resolve_iff sameMarker.symm).2 ⟨target, targetIn, source, sourceIn, ?_, agrees.1, ?_⟩
  · rw [sameMarker]
    exact agrees.symm
  · rw [MatchKind.reversed, MatchKind.wraps_ofOptional, MatchKind.requiresPresence_ofOptional,
      sameMarker]

/-- Both directions have the same fields, with source and target exchanged. -/
theorem mem_resolve_comm (sameMarker : first.marker = second.marker) :
    ⟨name, name, kind⟩ ∈ first.resolve second ↔
      ⟨name, name, kind.reversed⟩ ∈ second.resolve first := by
  refine ⟨reversed_mem_resolve sameMarker, fun member => ?_⟩
  rw [← kind.reversed_reversed]
  exact reversed_mem_resolve sameMarker.symm member

/-- Correspondences over a schema in between are correspondences. -/
theorem through_mem_resolve (firstMarker : first.marker = second.marker)
    (secondMarker : second.marker = third.marker)
    (member : ⟨name, name, kind⟩ ∈ first.resolve second)
    (further : ⟨name, name, kind'⟩ ∈ second.resolve third) :
    ⟨name, name, kind.through kind'⟩ ∈ first.resolve third := by
  rw [mem_resolve_iff firstMarker] at member
  rw [mem_resolve_iff secondMarker] at further
  rw [mem_resolve_iff (firstMarker.trans secondMarker)]
  obtain ⟨source, sourceIn, middle, middleIn, agrees, middleNamed, rfl⟩ := member
  obtain ⟨other, otherIn, target, targetIn, otherAgrees, targetNamed, rfl⟩ := further
  -- Field names are distinct, so both halves meet in one field of the schema in between.
  obtain rfl : middle = other := List.inj_on_of_nodup_map second.distinct middleIn otherIn
    (middleNamed.trans (targetNamed.symm.trans otherAgrees.1.symm))
  rw [secondMarker] at agrees ⊢
  refine ⟨source, sourceIn, target, targetIn, agrees.trans otherAgrees, targetNamed, ?_⟩
  rw [MatchKind.through, MatchKind.requiresPresence_ofOptional, MatchKind.wraps_ofOptional]

theorem sourceField_of_mem_resolve (sameMarker : first.marker = second.marker)
    {correspondence : Correspondence} (member : correspondence ∈ first.resolve second) :
    correspondence.sourceField = correspondence.targetField := by
  obtain ⟨source, -, target, -, -, rfl⟩ := ((resolve_matched sameMarker).mem_iff _).1 member
  rfl

theorem mem_targetFields_of_reverse (sameMarker : first.marker = second.marker)
    (member : name ∈ (first.resolve second).map (·.targetField)) :
    name ∈ (second.resolve first).map (·.targetField) := by
  obtain ⟨⟨sourceField, targetField, kind⟩, found, rfl⟩ := List.mem_map.1 member
  obtain rfl : sourceField = targetField := sourceField_of_mem_resolve sameMarker found
  exact List.mem_map.2 ⟨_, reversed_mem_resolve sameMarker found, rfl⟩

/-- No field is written twice. -/
theorem nodup_resolve (source target : SchemaIndex) :
    ((source.resolve target).map (·.targetField)).Nodup :=
  (resolve_ordered source target).nodup target.distinct

/-- Under one marker correspondence is an equivalence on the fields of one name: a schema resolved
against itself has each of its fields once, with a kind that changes nothing; the opposite direction
has the same fields with source and target exchanged; and what corresponds over a third schema
corresponds, as the source of the first half and the target of the second. -/
theorem resolve_equivalence (firstMarker : first.marker = second.marker)
    (secondMarker : second.marker = third.marker) :
    first.resolve first = first.schema.fields.map (Field.ownCorrespondence first.marker) ∧
    (∀ name, name ∈ (first.resolve second).map (·.targetField) ↔
      name ∈ (second.resolve first).map (·.targetField)) ∧
    (∀ name kind, ⟨name, name, kind⟩ ∈ first.resolve second ↔
      ⟨name, name, kind.reversed⟩ ∈ second.resolve first) ∧
    (∀ name kind kind', ⟨name, name, kind⟩ ∈ first.resolve second →
      ⟨name, name, kind'⟩ ∈ second.resolve third →
        ∃ direct, ⟨name, name, direct⟩ ∈ first.resolve third ∧
          direct.requiresPresence = kind.requiresPresence ∧ direct.wraps = kind'.wraps) ∧
    (∀ correspondence ∈ first.resolve second,
      correspondence.sourceField = correspondence.targetField) ∧
    ((first.resolve second).map (·.targetField)).Nodup := by
  refine ⟨first.resolve_self, fun name => ?_, fun name kind => mem_resolve_comm firstMarker, ?_,
    fun _ member => sourceField_of_mem_resolve firstMarker member, nodup_resolve first second⟩
  · constructor
    · exact mem_targetFields_of_reverse firstMarker
    · exact mem_targetFields_of_reverse firstMarker.symm
  · intro name kind kind' member further
    exact ⟨_, through_mem_resolve firstMarker secondMarker member further,
      MatchKind.requiresPresence_ofOptional _ _, MatchKind.wraps_ofOptional _ _⟩

/-- A schema of three fields, one of them optional. -/
def wideIndex : SchemaIndex :=
  ⟨⟨"A", [⟨"x", .mk "Optional" [.bare "int"]⟩, ⟨"y", .mk "list" [.bare "str"]⟩,
    ⟨"z", .bare "int"⟩], true⟩, "Optional", by decide⟩

/-- The fields of `wideIndex` in another order, with another one optional and one of another
type. -/
def turnedIndex : SchemaIndex :=
  ⟨⟨"B", [⟨"z", .bare "str"⟩, ⟨"y", .mk "typing.Optional" [.mk "list" [.bare "str"]]⟩,
    ⟨"x", .bare "int"⟩], false⟩, "Optional", by decide⟩

def narrowIndex : SchemaIndex :=
  ⟨⟨"C", [⟨"y", .mk "Optional" [.mk "list" [.bare "str"]]⟩], true⟩, "Optional", by decide⟩

/-- The field `z` has two types and drops out; `y` is read as in the first schema and written as in
the last. -/
theorem resolve_equivalence_wide : wideIndex.marker = turnedIndex.marker ∧
    turnedIndex.marker = narrowIndex.marker ∧
    wideIndex.resolve turnedIndex =
      [⟨"y", "y", .plainToOptional⟩, ⟨"x", "x", .optionalToPlain⟩] ∧
    ⟨"x", "x", .plainToOptional⟩ ∈ turnedIndex.resolve wideIndex ∧
    ∃ direct, ⟨"y", "y", direct⟩ ∈ wideIndex.resolve narrowIndex ∧
      direct.requiresPresence = false ∧ direct.wraps = true := by
  have firstMarker : wideIndex.marker = turnedIndex.marker := rfl
  have secondMarker : turnedIndex.marker = narrowIndex.marker := rfl
  obtain ⟨-, -, reversed, through, -, -⟩ := resolve_equivalence firstMarker secondMarker
  refine ⟨rfl, rfl, by decide, (reversed "x" .optionalToPlain).1 (by decide), ?_⟩
  exact through "y" .plainToOptional .optionalToOptional (by decide) (by decide)

end SchemaIndex

end Fieldwise
