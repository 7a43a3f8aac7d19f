import Fieldwise.Proofs.Schema.Manifest
import Fieldwise.Proofs.Scope.Locality

/-! # Manifests without repeated fields

Which schemas of a manifest declare a field twice is seen in the names that its items write, under
every marker. Without these items the manifest is loaded as the other schemas
(`Manifest.schemas_pruned`). -/

namespace Fieldwise

variable {marker : String}

namespace Manifest

/-- The name that the record of a field gives, a text or the bytes of one. -/
def declaredName? (field : Datum) : Option String :=
  (field.get? "name").bind (·.checkText.toOption)

def declaredNames (item : Datum) : List String :=
  (fieldsOf item).filterMap declaredName?

/-- A manifest of the items of another that declare no field twice. -/
def IsPruned (document pruned : Datum) : Prop :=
  items? pruned = (items? document).map (·.filter fun item => (declaredNames item).Nodup)

end Manifest

/-! ## Declared names -/

theorem eq_of_requireIdentifier {subject text name : String}
    (passed : requireIdentifier subject text = .ok name) : name = text := by
  rw [requireIdentifier] at passed
  split at passed
  · exact (Except.ok.inj passed).symm
  · cases passed

theorem Field.declaredName?_of_ofDatum {datum : Datum} {field : Field}
    (passed : ofDatum marker datum = .ok field) :
    Manifest.declaredName? datum = some field.name := by
  cases datum with
  | mapping entries =>
    obtain ⟨⟨_, _⟩, both, rfl⟩ := Checked.eq_ok_of_map (Datum.eq_ok_of_closed passed)
    obtain ⟨name, found, checked⟩ := Datum.check_of_required (Checked.eq_ok_of_both both).1
    obtain ⟨text, isText, accepted⟩ := Datum.test_of_checkTextBy checked
    rw [Manifest.declaredName?, Datum.get?, found, Option.bind_some, isText,
      ← eq_of_requireIdentifier accepted]
    rfl
  | _ => cases passed

/-- An item that is a schema declares its field names in order. -/
theorem Schema.declaredNames_of_check {item : Datum} {schema : Schema}
    (passed : check marker item = .ok schema) :
    Manifest.declaredNames item = schema.fieldNames := by
  cases item with
  | mapping entries =>
    obtain ⟨⟨_, _, _⟩, both, rfl⟩ := Checked.eq_ok_of_map (Datum.eq_ok_of_closed passed)
    obtain ⟨-, rest⟩ := Checked.eq_ok_of_both both
    obtain ⟨fields, -⟩ := Checked.eq_ok_of_both rest
    rw [Manifest.declaredNames, Manifest.fieldsOf, Datum.get?, fieldNames]
    dsimp only at fields ⊢
    rcases Datum.check_of_defaulted fields with ⟨absent, none⟩ | ⟨sequence, found, checked⟩
    · rw [absent, none]
      rfl
    · obtain ⟨items, _, listed, -, each⟩ := forall₂_of_checkFields checked
      rw [found, Option.bind_some, listed, Option.getD_some, ← List.filterMap_eq_map]
      exact filterMap_eq_of_forall₂ each fun item field => Field.declaredName?_of_ofDatum
  | _ => cases passed

/-! ## Pruned manifests -/

namespace Manifest

variable {origin : String} {document pruned : Datum} {schemas : List Schema}

/-- No item of a loaded manifest has to be called by its name in a message. -/
theorem isUnshowable_of_schemas
    (loaded : Manifest.schemas origin marker document = .ok schemas) :
    isUnshowable marker document = false := by
  obtain ⟨items, listed, readable, -⟩ := items_of_schemas loaded
  have none : items.find? (fun item => (itemFault? marker item).isSome) = none := by
    rw [List.find?_eq_none]
    intro item member
    rw [readable item member]
    exact Bool.false_ne_true
  rw [isUnshowable, listed, Option.getD_some, none]

/-- A pruned manifest is loaded as the schemas that declare no field twice. -/
theorem schemas_pruned (loaded : Manifest.schemas origin marker document = .ok schemas)
    (isPruned : IsPruned document pruned) (place : String) :
    Manifest.schemas place marker pruned = .ok (schemas.filter (·.Indexable)) := by
  obtain ⟨items, listed, readable, each⟩ := items_of_schemas loaded
  have kept : items? pruned = some (items.filter fun item => (declaredNames item).Nodup) := by
    rw [isPruned, listed, Option.map_some]
  refine schemas_eq_ok kept ?_ ?_ place
  · intro item member
    have readable := readable item (List.mem_of_mem_filter member)
    rwa [itemFault?, Option.map_eq_none_iff, List.findSome?_eq_none_iff] at readable
  · refine List.rel_filter (fun item schema passed => ?_) each
    dsimp only
    rw [Schema.declaredNames_of_check passed]
    rfl

end Manifest

end Fieldwise
