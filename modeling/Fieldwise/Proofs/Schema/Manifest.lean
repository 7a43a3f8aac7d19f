import Fieldwise.Proofs.Schema.Names
import Fieldwise.Proofs.Type.RoundTrip

/-! # Manifests of schemas

The manifest of well-named schemas whose types are canonical is loaded as these schemas under every
marker (`schemas_document`). All that is loaded from a manifest whose types are texts is of this
kind (`reloadable_of_schemas`), so a manifest can be loaded, written and loaded again without
change (`reload_schemas`). -/

namespace Fieldwise

variable {marker : String}

/-- A schema that its document preserves: it is well named, and its types are canonical. -/
structure Schema.Reloadable (schema : Schema) : Prop where
  named : schema.WellNamed
  canonical : ∀ field ∈ schema.fields, field.type.Canonical

/-! ## Documents of schemas are read back -/

theorem requireIdentifier_of_isFieldName (subject : String) {name : String}
    (accepted : Text.isFieldName name) : requireIdentifier subject name = .ok name := by
  rw [requireIdentifier, if_pos accepted]

/-- The record of an accepted name and a readable text of a type is a field. -/
theorem Field.ofDatum_record {name text : String} {type : TypeExpr}
    (accepted : Text.isFieldName name) (found : TypeExpr.read marker text = .ok type) :
    Field.ofDatum marker (.mapping [(.text "name", .text name), (.text "type", .text text)]) =
      .ok ⟨name, type⟩ := by
  have checkedName : Datum.checkTextBy (requireIdentifier "field") (.text name) = .ok name := by
    simp [Datum.checkTextBy, Datum.checkText, requireIdentifier_of_isFieldName _ accepted,
      Except.mapError]
  have checkedType : Field.checkType marker (.text text) = .ok type := by
    rw [Field.checkType, found]
  simp [Field.ofDatum, Datum.checkRecord, bind, Except.bind, Datum.closed, Datum.strayKeys,
    Datum.required, Datum.lookup?, checkedName, checkedType, Checked.within, Checked.both,
    Except.mapError, Except.map]

/-- The record of an accepted name, a flag and fields that pass is a schema. -/
theorem Schema.check_record {name : String} (accepted : Text.isFieldName name) (flag : Bool)
    {items : List Datum} {fields : List Field}
    (each : List.Forall₂ (fun item field => Field.ofDatum marker item = .ok field) items fields) :
    Schema.check marker (.mapping [(.text "name", .text name),
      (.text "default_constructible", .flag flag), (.text "fields", .list items)]) =
        .ok ⟨name, fields, flag⟩ := by
  have checkedName : Datum.checkTextBy (requireIdentifier "schema") (.text name) = .ok name := by
    simp [Datum.checkTextBy, Datum.checkText, requireIdentifier_of_isFieldName _ accepted,
      Except.mapError]
  have checkedFields : Schema.checkFields marker (.list items) = .ok fields := by
    rw [Schema.checkFields, Datum.checkItems, Datum.items?]
    exact Datum.checkEach_eq_ok 0 each
  simp [Schema.check, Datum.checkRecord, bind, Except.bind, Datum.closed, Datum.strayKeys,
    Schema.documentKeys, Datum.required, Datum.defaulted, Datum.lookup?, Datum.checkFlag,
    checkedName, checkedFields, Checked.within, Checked.both, Except.mapError, Except.map]

theorem Schema.check_ofSchema {schema : Schema} (reloadable : schema.Reloadable) :
    Schema.check marker (Manifest.ofSchema schema) = .ok schema := by
  refine Schema.check_record reloadable.named.name _ ?_
  rw [List.forall₂_map_left_iff, List.forall₂_same]
  intro field member
  exact Field.ofDatum_record (reloadable.named.fields field member)
    ((reloadable.canonical field member).read_render marker)

namespace Manifest

/-- A manifest is loaded if all its types can be read and all its items are schemas. -/
theorem schemas_eq_ok {document : Datum} {items : List Datum} {loaded : List Schema}
    (listed : items? document = some items)
    (noFault : ∀ item ∈ items, ∀ text ∈ typeTexts item, typeFault? marker text = none)
    (each : List.Forall₂ (fun item schema => Schema.check marker item = .ok schema) items loaded)
    (origin : String) : Manifest.schemas origin marker document = .ok loaded := by
  have readable : items.findSome? (itemFault? marker) = none := by
    rw [List.findSome?_eq_none_iff]
    intro item member
    rw [itemFault?, List.findSome?_eq_none_iff.2 (noFault item member)]
    rfl
  have checked : items.mapM (fun item =>
      ((Schema.check marker item).named Schema.modelName).mapError .invalid) =
        (.ok loaded : Except ManifestFault (List Schema)) := by
    refine mapM_eq_ok (each.imp fun item schema passed => ?_)
    rw [passed]
    rfl
  rw [Manifest.schemas, listed]
  dsimp only
  rw [ofItems, readable]
  dsimp only
  rw [checked]
  rfl

theorem typeTexts_ofSchema (schema : Schema) :
    typeTexts (ofSchema schema) = schema.fields.map (·.type.render) := by
  simp [typeTexts, ofSchema, Datum.get?, Datum.lookup?, Datum.list?, List.filterMap_map,
    Function.comp_def, ofField, Datum.text?]

theorem items?_document (schemas : List Schema) :
    items? (document schemas) = some (schemas.map ofSchema) := by
  simp [items?, document, Datum.lookup?, Datum.list?]

/-- The manifest of reloadable schemas is loaded as these schemas, whatever the marker. -/
theorem schemas_document {schemas : List Schema}
    (reloadable : ∀ schema ∈ schemas, schema.Reloadable) (origin : String) :
    Manifest.schemas origin marker (document schemas) = .ok schemas := by
  refine schemas_eq_ok (items?_document schemas) ?_ ?_ origin
  · rw [List.forall_mem_map]
    intro schema member
    rw [typeTexts_ofSchema, List.forall_mem_map]
    intro field fieldIn
    rw [typeFault?, ((reloadable schema member).canonical field fieldIn).read_render marker]
  · rw [List.forall₂_map_left_iff, List.forall₂_same]
    exact fun schema member => Schema.check_ofSchema (reloadable schema member)

/-! ## What is loaded can be loaded again -/

/-- The records of fields that an item of a manifest lists. -/
def fieldsOf (item : Datum) : List Datum :=
  ((item.get? "fields").bind Datum.items?).getD []

/-- Every type of a manifest is written as a text. -/
def TypesAreTexts (document : Datum) : Prop :=
  ∀ items, items? document = some items → ∀ item ∈ items, ∀ field ∈ fieldsOf item,
    ∀ type, field.get? "type" = some type → ∃ text, type = .text text

end Manifest

/-- A field whose type is written as a text has a canonical type. -/
theorem Field.canonical_of_ofDatum (dotted : Token.DottedName marker.toList) {datum : Datum}
    {field : Field} (isText : ∀ type, datum.get? "type" = some type → ∃ text, type = .text text)
    (passed : ofDatum marker datum = .ok field) : field.type.Canonical := by
  cases datum with
  | mapping entries =>
    obtain ⟨parts, both, rfl⟩ := Checked.eq_ok_of_map (Datum.eq_ok_of_closed passed)
    obtain ⟨type, found, checked⟩ := Datum.check_of_required (Checked.eq_ok_of_both both).2
    obtain ⟨text, rfl⟩ := isText type found
    rw [checkType] at checked
    split at checked
    · rename_i read
      cases checked
      exact TypeExpr.canonical_of_read dotted read
    · cases checked
  | _ => cases passed

theorem Schema.canonical_of_check (dotted : Token.DottedName marker.toList) {item : Datum}
    {schema : Schema} (areTexts : ∀ field ∈ Manifest.fieldsOf item,
      ∀ type, field.get? "type" = some type → ∃ text, type = .text text)
    (passed : check marker item = .ok schema) : ∀ field ∈ schema.fields, field.type.Canonical := by
  cases item with
  | mapping entries =>
    obtain ⟨parts, both, rfl⟩ := Checked.eq_ok_of_map (Datum.eq_ok_of_closed passed)
    obtain ⟨-, rest⟩ := Checked.eq_ok_of_both both
    obtain ⟨fields, -⟩ := Checked.eq_ok_of_both rest
    intro field member
    dsimp only at member
    rcases Datum.check_of_defaulted fields with ⟨-, none⟩ | ⟨sequence, found, checked⟩
    · rw [none] at member
      cases member
    · obtain ⟨items, used, listed, isMarker, each⟩ := forall₂_of_checkFields checked
      obtain ⟨datum, datumIn, made⟩ := exists_of_forall₂ each field member
      have isField : datum ∈ Manifest.fieldsOf (.mapping entries) := by
        rw [Manifest.fieldsOf, Datum.get?, found, Option.bind_some, listed]
        exact datumIn
      have usedDotted : Token.DottedName used.toList := by
        rcases isMarker with rfl | rfl
        · exact dotted
        · exact TypeExpr.dottedName_defaultMarker
      exact Field.canonical_of_ofDatum usedDotted (areTexts datum isField) made
  | _ => cases passed

namespace Manifest

/-- What is loaded under a dotted marker, from a manifest that writes its types as texts, can be
written and loaded again. -/
theorem reloadable_of_schemas (dotted : Token.DottedName marker.toList) {origin : String}
    {document : Datum} (areTexts : TypesAreTexts document) {loaded : List Schema}
    (found : Manifest.schemas origin marker document = .ok loaded) :
    ∀ schema ∈ loaded, schema.Reloadable := by
  intro schema member
  obtain ⟨items, listed, -, each⟩ := items_of_schemas found
  obtain ⟨item, itemIn, passed⟩ := exists_of_forall₂ each schema member
  exact ⟨wellNamed_of_schemas found schema member,
    Schema.canonical_of_check dotted (areTexts items listed item itemIn) passed⟩

theorem typesAreTexts_document (schemas : List Schema) : TypesAreTexts (document schemas) := by
  intro items listed item itemIn field fieldIn type found
  rw [items?_document] at listed
  cases listed
  obtain ⟨schema, -, rfl⟩ := List.mem_map.1 itemIn
  have fields : fieldsOf (ofSchema schema) = schema.fields.map ofField := by
    simp [fieldsOf, ofSchema, Datum.get?, Datum.lookup?, Datum.items?]
  rw [fields] at fieldIn
  obtain ⟨made, -, rfl⟩ := List.mem_map.1 fieldIn
  have typeFound : (ofField made).get? "type" = some (.text made.type.render) := by
    simp [ofField, Datum.get?, Datum.lookup?]
  rw [typeFound] at found
  cases found
  exact ⟨_, rfl⟩

/-- Well-named schemas are loaded from their manifest exactly if all their types are canonical. -/
theorem schemas_document_eq_ok_iff (dotted : Token.DottedName marker.toList)
    {schemas : List Schema} (named : ∀ schema ∈ schemas, schema.WellNamed) (origin : String) :
    Manifest.schemas origin marker (document schemas) = .ok schemas ↔
      ∀ schema ∈ schemas, ∀ field ∈ schema.fields, field.type.Canonical := by
  constructor
  · intro found schema member
    exact (reloadable_of_schemas dotted (typesAreTexts_document schemas) found schema member).2
  · intro canonical
    exact schemas_document (fun schema member => ⟨named schema member, canonical schema member⟩)
      origin

/-- The manifest of reloadable schemas is loaded as these schemas under every marker, and all that
is loaded under a dotted marker, from a manifest that writes its types as texts, is reloadable. So
loading, writing and loading again, under whatever marker, changes nothing. -/
theorem reload_schemas (marker : String) (dotted : Token.DottedName marker.toList) :
    (∀ (schemas : List Schema), (∀ schema ∈ schemas, schema.Reloadable) →
      ∀ origin other, Manifest.schemas origin other (document schemas) = .ok schemas) ∧
    ∀ (origin : String) (manifest : Datum) (loaded : List Schema), TypesAreTexts manifest →
      Manifest.schemas origin marker manifest = .ok loaded →
        (∀ schema ∈ loaded, schema.Reloadable) ∧
          ∀ place other, Manifest.schemas place other (document loaded) = .ok loaded := by
  constructor
  · intro schemas reloadable origin other
    exact schemas_document reloadable origin
  · intro origin manifest loaded areTexts found
    have reloadable := reloadable_of_schemas dotted areTexts found
    exact ⟨reloadable, fun place other => schemas_document reloadable place⟩

/-- A field with an optional type and a literal that holds a comma, and the same field again. -/
def repeatedFields : List Datum :=
  [.mapping [(.text "name", .text "x"), (.text "type", .text "list['a, b'] | None")],
    .mapping [(.text "name", .text "x"), (.text "type", .text "int")]]

/-- A manifest of one schema with a repeated field. -/
def repeatedManifest : Datum :=
  .list [.mapping [(.text "name", .text "A"), (.text "default_constructible", .flag true),
    (.text "fields", .list repeatedFields)]]

/-- The schemas of `repeatedManifest` under the marker `typing.Maybe`. -/
def repeatedSchemas : List Schema :=
  [⟨"A", [⟨"x", .mk "typing.Maybe" [.mk "list" [.bare "'a, b'"]]⟩, ⟨"x", .bare "int"⟩], true⟩]

/-- What is loaded as `typing.Maybe` stays so under the marker `Optional`. -/
theorem reload_repeatedSchemas : Token.DottedName "typing.Maybe".toList ∧
    TypesAreTexts repeatedManifest ∧
    Manifest.schemas "scope" "typing.Maybe" repeatedManifest = .ok repeatedSchemas ∧
    Manifest.schemas "copy" "Optional" (document repeatedSchemas) = .ok repeatedSchemas := by
  have dotted : Token.DottedName ("typing".toList ++ '.' :: "Maybe".toList) :=
    .dotted (by decide) (List.all_eq_true.1 (by decide))
      (.segment (by decide) (List.all_eq_true.1 (by decide)))
  have areTexts : TypesAreTexts repeatedManifest := by
    rintro items ⟨⟩
    simp [fieldsOf, repeatedFields, Datum.get?, Datum.lookup?, Datum.items?]
  have readList : TypeExpr.read "typing.Maybe" "list['a, b'] | None" =
      .ok (.mk "typing.Maybe" [.mk "list" [.bare "'a, b'"]]) := by
    have scanned : Token.scan "list['a, b'] | None" = .ok [.word "list", .mark .openBracket,
        .word "'a, b'", .mark .closeBracket, .mark .bar, .word "None"] :=
      eq_ok_of_toOption (by decide +kernel)
    exact TypeExpr.read_of_derives scanned (.intro (.more (.applied "list" (.last (.intro
      (.last (.bare "'a, b'")) rfl))) (.last (.bare "None"))) (by decide))
  have readInt : TypeExpr.read "typing.Maybe" "int" = .ok (.bare "int") := by
    have scanned : Token.scan "int" = .ok [.word "int"] :=
      eq_ok_of_toOption (by decide +kernel)
    exact TypeExpr.read_of_derives scanned (.intro (.last (.bare "int")) rfl)
  have loaded : Manifest.schemas "scope" "typing.Maybe" repeatedManifest =
      .ok repeatedSchemas := by
    have accepted : Text.isFieldName "x" ∧ Text.isFieldName "A" := by decide +kernel
    have checked := Schema.check_record accepted.2 true
      (.cons (Field.ofDatum_record accepted.1 readList)
        (.cons (Field.ofDatum_record accepted.1 readInt) .nil))
    refine schemas_eq_ok rfl ?_ (.cons checked .nil) "scope"
    rw [List.forall_mem_singleton]
    change ∀ text ∈ ["list['a, b'] | None", "int"], typeFault? "typing.Maybe" text = none
    refine List.forall_mem_cons.2 ⟨?_, List.forall_mem_singleton.2 ?_⟩
    · rw [typeFault?, readList]
    · rw [typeFault?, readInt]
  exact ⟨dotted, areTexts, loaded,
    ((reload_schemas "typing.Maybe" dotted).2 "scope" _ _ areTexts loaded).2 "copy" "Optional"⟩

end Manifest

end Fieldwise
