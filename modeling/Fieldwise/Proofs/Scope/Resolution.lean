import Fieldwise.Correspondence
import Fieldwise.Proofs.KeyedLists

/-! # The correspondences of two indexed schemas

`Schema.Matched` says what the correspondences of an ordered pair are without saying how they are
found: they follow the target's field order, and they are those of the fields that both schemas
declare with one type inside the optional level. Field names are distinct, so a list that is matched
is the only one. `SchemaIndex.resolve_matched` shows that resolution finds it. -/

namespace Fieldwise

/-- A schema that declares no field twice. -/
def Schema.Indexable (schema : Schema) : Prop :=
  schema.fieldNames.Nodup

instance (schema : Schema) : Decidable schema.Indexable :=
  inferInstanceAs (Decidable schema.fieldNames.Nodup)

/-- Two fields of one name whose types agree inside the optional level. -/
def Field.Agrees (marker : String) (source target : Field) : Prop :=
  source.name = target.name ∧ (source.type.shape marker).inner = (target.type.shape marker).inner

instance (marker : String) (source target : Field) : Decidable (source.Agrees marker target) :=
  inferInstanceAs (Decidable (_ ∧ _))

/-- The correspondence of two fields that agree, with the kind that the matching table gives. -/
def Field.correspondence (marker : String) (source target : Field) : Correspondence :=
  ⟨target.name, target.name,
    .ofOptional (source.type.shape marker).optional (target.type.shape marker).optional⟩

/-- A list holds exactly the correspondences of an ordered pair, in the target's field order. -/
structure Schema.Matched (marker : String) (source target : Schema)
    (correspondences : List Correspondence) : Prop where
  ordered : (correspondences.map (·.targetField)).Sublist target.fieldNames
  mem_iff : ∀ correspondence, correspondence ∈ correspondences ↔
    ∃ sourceField ∈ source.fields, ∃ targetField ∈ target.fields,
      sourceField.Agrees marker targetField ∧
        correspondence = sourceField.correspondence marker targetField

theorem MatchKind.requiresPresence_ofOptional (source target : Bool) :
    (ofOptional source target).requiresPresence = source := by
  cases source <;> cases target <;> rfl

theorem MatchKind.wraps_ofOptional (source target : Bool) :
    (ofOptional source target).wraps = target := by
  cases source <;> cases target <;> rfl

namespace Field.Agrees

variable {marker : String} {first second third : Field}

theorem refl (marker : String) (field : Field) : field.Agrees marker field :=
  ⟨rfl, rfl⟩

theorem symm (agrees : first.Agrees marker second) : second.Agrees marker first :=
  ⟨agrees.1.symm, agrees.2.symm⟩

theorem trans (agrees : first.Agrees marker second) (further : second.Agrees marker third) :
    first.Agrees marker third :=
  ⟨agrees.1.trans further.1, agrees.2.trans further.2⟩

end Field.Agrees

theorem SchemaIndex.ext {first second : SchemaIndex} (sameSchema : first.schema = second.schema)
    (sameMarker : first.marker = second.marker) : first = second := by
  cases first
  cases second
  obtain rfl : _ = _ := sameSchema
  obtain rfl : _ = _ := sameMarker
  rfl

/-- A field of a name is the only one that the index knows by it. -/
theorem SchemaIndex.field?_eq_some_iff (index : SchemaIndex) (name : String) (field : Field) :
    index.field? name = some field ↔ field ∈ index.schema.fields ∧ field.name = name :=
  find?_key_eq_some_iff index.distinct name field

theorem Shape.match?_eq_some_iff (source target : Shape) (kind : MatchKind) :
    source.match? target = some kind ↔
      source.inner = target.inner ∧ kind = .ofOptional source.optional target.optional := by
  rw [Shape.match?, Option.ite_none_right_eq_some, Option.some.injEq, eq_comm (a := kind)]

/-- What a target field receives: the correspondence with the source field that agrees with it. -/
theorem SchemaIndex.correspondence?_eq_some_iff {source target : SchemaIndex}
    (sameMarker : source.marker = target.marker) (targetField : Field)
    (correspondence : Correspondence) :
    source.correspondence? target targetField = some correspondence ↔
      ∃ sourceField ∈ source.schema.fields, sourceField.Agrees target.marker targetField ∧
        correspondence = sourceField.correspondence target.marker targetField := by
  simp only [correspondence?, shape?, bind, pure, Option.bind_eq_some_iff, Option.map_eq_some_iff,
    field?_eq_some_iff, Shape.match?_eq_some_iff, shapeOf, sameMarker, Option.some.injEq]
  constructor
  · rintro ⟨_, ⟨sourceField, ⟨member, named⟩, rfl⟩, kind, ⟨inner, rfl⟩, rfl⟩
    exact ⟨sourceField, member, ⟨named, inner⟩, rfl⟩
  · rintro ⟨sourceField, member, ⟨named, inner⟩, rfl⟩
    exact ⟨_, ⟨sourceField, ⟨member, named⟩, rfl⟩, _, ⟨inner, rfl⟩, rfl⟩

theorem SchemaIndex.targetField_of_correspondence? {source target : SchemaIndex} {field : Field}
    {correspondence : Correspondence}
    (found : source.correspondence? target field = some correspondence) :
    correspondence.targetField = field.name := by
  simp only [correspondence?, bind, pure, Option.bind_eq_some_iff] at found
  obtain ⟨_, _, _, _, same⟩ := found
  rw [← Option.some.inj same]

/-- Resolution keeps the target's field order. -/
theorem SchemaIndex.resolve_ordered (source target : SchemaIndex) :
    ((source.resolve target).map (·.targetField)).Sublist target.schema.fieldNames :=
  map_filterMap_sublist (fun _ _ => targetField_of_correspondence?) target.schema.fields

/-- Resolution finds exactly the correspondences of the two schemas under their marker. -/
theorem SchemaIndex.resolve_matched {source target : SchemaIndex}
    (sameMarker : source.marker = target.marker) :
    source.schema.Matched target.marker target.schema (source.resolve target) where
  ordered := resolve_ordered source target
  mem_iff correspondence := by
    simp only [resolve, List.mem_filterMap, correspondence?_eq_some_iff sameMarker]
    constructor
    · rintro ⟨targetField, member, sourceField, sourceMember, agrees, same⟩
      exact ⟨sourceField, sourceMember, targetField, member, agrees, same⟩
    · rintro ⟨sourceField, sourceMember, targetField, member, agrees, same⟩
      exact ⟨targetField, member, sourceField, sourceMember, agrees, same⟩

end Fieldwise
