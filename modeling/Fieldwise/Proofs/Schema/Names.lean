import Fieldwise.Manifest
import Fieldwise.Proofs.Validation

/-! # The names of checked schemas

Checking a schema admits no name but identifiers that are not reserved, so all names of a loaded
manifest are of that kind. -/

namespace Fieldwise

/-- All names of a schema are identifiers and no reserved words. -/
structure Schema.WellNamed (schema : Schema) : Prop where
  name : Text.isFieldName schema.name
  fields : ∀ field ∈ schema.fields, Text.isFieldName field.name

theorem isFieldName_of_requireIdentifier {subject text name : String}
    (passed : requireIdentifier subject text = .ok name) : Text.isFieldName name := by
  rw [requireIdentifier] at passed
  split at passed
  · rename_i accepted
    cases passed
    exact accepted
  · cases passed

theorem Field.isFieldName_of_ofDatum {marker : String} {datum : Datum} {field : Field}
    (passed : ofDatum marker datum = .ok field) : Text.isFieldName field.name := by
  cases datum with
  | mapping entries =>
    obtain ⟨parts, both, rfl⟩ := Checked.eq_ok_of_map (Datum.eq_ok_of_closed passed)
    obtain ⟨_, -, name⟩ := Datum.check_of_required (Checked.eq_ok_of_both both).1
    obtain ⟨_, -, name⟩ := Datum.test_of_checkTextBy name
    exact isFieldName_of_requireIdentifier name
  | _ => cases passed

/-- Fields that pass are checked one by one, with the given marker or the default one. -/
theorem Schema.forall₂_of_checkFields {marker : String} {sequence : Datum} {fields : List Field}
    (passed : checkFields marker sequence = .ok fields) :
    ∃ items used, sequence.items? = some items ∧ (used = marker ∨ used = TypeExpr.defaultMarker) ∧
      List.Forall₂ (fun item field => Field.ofDatum used item = .ok field) items fields := by
  obtain ⟨used, isMarker, passed⟩ : ∃ used, (used = marker ∨ used = TypeExpr.defaultMarker) ∧
      Datum.checkItems (Field.ofDatum used) sequence = .ok fields := by
    cases sequence with
    | list _ => exact ⟨marker, .inl rfl, passed⟩
    | _ => exact ⟨_, .inr rfl, passed⟩
  obtain ⟨items, listed, each⟩ := Datum.forall₂_of_checkItems passed
  exact ⟨items, used, listed, isMarker, each⟩

/-- A schema that has passed its check is well named. -/
theorem Schema.wellNamed_of_check {marker : String} {datum : Datum} {schema : Schema}
    (passed : check marker datum = .ok schema) : schema.WellNamed := by
  cases datum with
  | mapping entries =>
    obtain ⟨parts, both, rfl⟩ := Checked.eq_ok_of_map (Datum.eq_ok_of_closed passed)
    obtain ⟨name, rest⟩ := Checked.eq_ok_of_both both
    obtain ⟨fields, -⟩ := Checked.eq_ok_of_both rest
    obtain ⟨_, -, name⟩ := Datum.check_of_required name
    obtain ⟨_, -, name⟩ := Datum.test_of_checkTextBy name
    refine ⟨isFieldName_of_requireIdentifier name, fun field member => ?_⟩
    rcases Datum.check_of_defaulted fields with ⟨-, none⟩ | ⟨_, -, sequence⟩
    · dsimp only at member
      rw [none] at member
      cases member
    · obtain ⟨_, _, -, -, each⟩ := forall₂_of_checkFields sequence
      obtain ⟨_, -, found⟩ := exists_of_forall₂ each field member
      exact Field.isFieldName_of_ofDatum found
  | _ => cases passed

namespace Manifest

variable {origin marker : String} {document : Datum} {schemas : List Schema}

/-- A manifest that is loaded lists items; all their types can be read, and each item is a schema. -/
theorem items_of_schemas (loaded : Manifest.schemas origin marker document = .ok schemas) :
    ∃ items, items? document = some items ∧ (∀ item ∈ items, itemFault? marker item = none) ∧
      List.Forall₂ (fun item schema => Schema.check marker item = .ok schema) items schemas := by
  rw [Manifest.schemas] at loaded
  split at loaded
  · cases loaded
  · rename_i items listed
    have loaded := eq_ok_of_mapError loaded
    rw [ofItems] at loaded
    split at loaded
    · cases loaded
    · rename_i readable
      exact ⟨items, listed, List.findSome?_eq_none_iff.1 readable,
        (forall₂_of_mapM_eq_ok loaded).imp fun _ _ passed =>
          eq_ok_of_mapError (eq_ok_of_mapError passed)⟩

/-- The schemas of a manifest are well named. -/
theorem wellNamed_of_schemas (loaded : Manifest.schemas origin marker document = .ok schemas) :
    ∀ schema ∈ schemas, schema.WellNamed := by
  obtain ⟨items, -, -, each⟩ := items_of_schemas loaded
  intro schema member
  obtain ⟨item, -, passed⟩ := exists_of_forall₂ each schema member
  exact Schema.wellNamed_of_check passed

end Manifest

end Fieldwise
