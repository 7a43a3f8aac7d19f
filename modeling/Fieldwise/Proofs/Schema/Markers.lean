import Fieldwise.Proofs.Schema.Manifest
import Fieldwise.Proofs.Scope.Markers

/-! # Manifests under two markers

A manifest whose types are texts in lists of fields is loaded under every marker if it is under one,
and its schemas under two markers differ by the exchange of the two, unless a name in its texts is
taken for one of them. So a pass over what is loaded does not depend on the name that the marker has
(`Manifest.generate_of_freeMarker`). -/

namespace Fieldwise

variable {first second : String} {related : TypeExpr → TypeExpr → Prop}

variable {strict : Prop}

/-! ## Related types make related schemas -/

/-- The records of two fields with equal names are alike if their types are. -/
theorem Field.alike_ofDatum {entries others : List (Datum × Datum)}
    (apart : Datum.EqualApart "type" entries others)
    (types : Option.Rel (fun type other =>
        Alike strict related (checkType first type) (checkType second other))
      (Datum.lookup? "type" entries) (Datum.lookup? "type" others)) :
    Alike strict (Field.Related related) (ofDatum first (.mapping entries))
      (ofDatum second (.mapping others)) := by
  have name : Alike strict Eq
      (Datum.required entries "name" (Datum.checkTextBy (requireIdentifier "field")))
      (Datum.required others "name" (Datum.checkTextBy (requireIdentifier "field"))) := by
    rw [apart.required_eq (by decide)]
    exact .refl (fun _ => rfl) _
  have both := name.both (.required types)
  exact .closed apart (both.map fun _ _ same => ⟨same.1, same.2⟩) _

/-- The records of two schemas with equal names and flags are alike if their fields are. -/
theorem Schema.alike_check {entries others : List (Datum × Datum)}
    (apart : Datum.EqualApart "fields" entries others)
    (fields : Option.Rel (fun sequence other => Alike strict (List.Forall₂ (Field.Related related))
        (checkFields first sequence) (checkFields second other))
      (Datum.lookup? "fields" entries) (Datum.lookup? "fields" others)) :
    Alike strict (Schema.Related related) (check first (.mapping entries))
      (check second (.mapping others)) := by
  have name : Alike strict Eq
      (Datum.required entries "name" (Datum.checkTextBy (requireIdentifier "schema")))
      (Datum.required others "name" (Datum.checkTextBy (requireIdentifier "schema"))) := by
    rw [apart.required_eq (by decide)]
    exact .refl (fun _ => rfl) _
  have flag : Alike strict Eq
      (Datum.defaulted entries "default_constructible" false Datum.checkFlag)
      (Datum.defaulted others "default_constructible" false Datum.checkFlag) := by
    rw [apart.defaulted_eq (by decide)]
    exact .refl (fun _ => rfl) _
  have both := name.both ((Alike.defaulted .nil fields).both flag)
  exact .closed apart (both.map fun _ _ same => ⟨same.1, same.2.1, same.2.2⟩) _

/-- The type in the record of a field is a text that is read alike under two markers. -/
def Datum.ReadAlike (related : TypeExpr → TypeExpr → Prop) (first second : String)
    (field : Datum) : Prop :=
  ∀ type, field.get? "type" = some type → ∃ text, type = .text text ∧
    Alike False related (TypeExpr.read first text) (TypeExpr.read second text)

namespace Datum.ReadAlike

theorem ofDatum {datum : Datum} (alike : datum.ReadAlike related first second) :
    Alike False (Field.Related related) (Field.ofDatum first datum)
      (Field.ofDatum second datum) := by
  cases datum with
  | mapping entries =>
    refine Field.alike_ofDatum (.refl _ _) (rel_self fun type found => ?_)
    obtain ⟨text, rfl, same⟩ := alike type found
    refine .of_ok fun read passed => ?_
    rw [Field.checkType] at passed ⊢
    cases readFirst : TypeExpr.read first text with
    | error error =>
      rw [readFirst] at passed
      cases passed
    | ok type =>
      rw [readFirst] at passed
      cases passed
      obtain ⟨other, readSecond, related⟩ := same.exists_of_ok readFirst
      rw [readSecond]
      exact ⟨other, rfl, related⟩
  | _ => exact .error _

/-- Fields in a list are read with the markers, and those in other sequences are not. -/
theorem checkFields {sequence : Datum}
    (inLists : sequence.items?.getD [] = sequence.list?.getD [])
    (each : ∀ field ∈ sequence.items?.getD [], field.ReadAlike related first second) :
    Alike False (List.Forall₂ (Field.Related related)) (Schema.checkFields first sequence)
      (Schema.checkFields second sequence) := by
  have noFields {items : List Datum} (same : items = []) : Alike False
      (List.Forall₂ (Field.Related related))
      (Datum.checkEach (Field.ofDatum TypeExpr.defaultMarker) 0 items)
      (Datum.checkEach (Field.ofDatum TypeExpr.defaultMarker) 0 items) := by
    subst same
    exact .value .nil
  cases sequence with
  | list items =>
    exact .checkEach (List.forall₂_same.2 fun field member => (each field member).ofDatum) 0
  | tuple items => exact noFields inLists
  | set items => exact noFields inLists
  | _ => exact .error _

end Datum.ReadAlike

namespace Manifest

theorem typeFault?_eq_none_iff (marker text : String) :
    typeFault? marker text = none ↔ ∃ type, TypeExpr.read marker text = .ok type := by
  rw [typeFault?]
  cases TypeExpr.read marker text with
  | ok type => exact iff_of_true rfl ⟨type, rfl⟩
  | error _ => simp

theorem itemFault?_eq_none_iff (marker : String) (item : Datum) :
    itemFault? marker item = none ↔
      ∀ text ∈ typeTexts item, ∃ type, TypeExpr.read marker text = .ok type := by
  simp only [itemFault?, Option.map_eq_none_iff, List.findSome?_eq_none_iff,
    typeFault?_eq_none_iff]

theorem items?_of_list? {sequence : Datum} {items : List Datum}
    (listed : sequence.list? = some items) : sequence.items? = some items := by
  cases sequence with
  | list _ => exact listed
  | _ => cases listed

/-- The texts that are read before all checks are types of fields. -/
theorem exists_of_mem_typeTexts {item : Datum} {text : String} (member : text ∈ typeTexts item) :
    ∃ field ∈ fieldsOf item, field.get? "type" = some (.text text) := by
  obtain ⟨field, fieldIn, found⟩ := List.mem_filterMap.1 member
  obtain ⟨type, typeFound, isText⟩ := Option.bind_eq_some_iff.1 found
  have isField : field ∈ fieldsOf item := by
    cases fields : (item.get? "fields").bind Datum.list? with
    | none =>
      rw [fields] at fieldIn
      cases fieldIn
    | some listed =>
      obtain ⟨sequence, sequenceFound, isList⟩ := Option.bind_eq_some_iff.1 fields
      rw [fieldsOf, sequenceFound, Option.bind_some, items?_of_list? isList]
      rw [fields] at fieldIn
      exact fieldIn
  cases type with
  | text value =>
    cases isText
    exact ⟨field, isField, typeFound⟩
  | _ => cases isText

/-- The items of a manifest give their fields in lists. A list has its types read with the marker that
is configured, where any other sequence is read with the default one. -/
def FieldsInLists (document : Datum) : Prop :=
  ∀ items, items? document = some items → ∀ item ∈ items,
    fieldsOf item = ((item.get? "fields").bind Datum.list?).getD []

/-- A text is the type of some field of a manifest. -/
def WritesType (document : Datum) (text : String) : Prop :=
  ∃ items, items? document = some items ∧ ∃ item ∈ items, ∃ field ∈ fieldsOf item,
    field.get? "type" = some (.text text)

theorem alike_check {item : Datum}
    (inLists : fieldsOf item = ((item.get? "fields").bind Datum.list?).getD [])
    (alike : ∀ field ∈ fieldsOf item, field.ReadAlike related first second) :
    Alike False (Schema.Related related) (Schema.check first item) (Schema.check second item) := by
  cases item with
  | mapping entries =>
    refine Schema.alike_check (.refl _ _) (rel_self fun sequence found => ?_)
    rw [fieldsOf, Datum.get?, found, Option.bind_some] at alike inLists
    exact Datum.ReadAlike.checkFields inLists alike
  | _ => exact .error _

/-- If each type is a text that is read alike under two markers, so is the manifest. -/
theorem alike_schemas {document : Datum} (inLists : FieldsInLists document)
    (areTexts : TypesAreTexts document) (alike : ∀ text, WritesType document text →
      Alike False related (TypeExpr.read first text) (TypeExpr.read second text))
    (origin : String) :
    Alike False (List.Forall₂ (Schema.Related related)) (Manifest.schemas origin first document)
      (Manifest.schemas origin second document) := by
  rw [Manifest.schemas, Manifest.schemas]
  split
  · exact .error _
  · rename_i items listed
    apply Alike.mapError
    rw [ofItems]
    split
    · exact .beside not_false _ _
    · rename_i noFault
      -- All types are read once before any item is checked, so reading counts here and below.
      have noFault' : items.findSome? (itemFault? second) = none := by
        rw [List.findSome?_eq_none_iff] at noFault ⊢
        intro item itemIn
        rw [itemFault?_eq_none_iff]
        intro text member
        obtain ⟨field, fieldIn, found⟩ := exists_of_mem_typeTexts member
        obtain ⟨type, read⟩ :=
          (itemFault?_eq_none_iff first item).1 (noFault item itemIn) text member
        have same := alike text ⟨items, listed, item, itemIn, field, fieldIn, found⟩
        obtain ⟨other, readOther, -⟩ := same.exists_of_ok read
        exact ⟨other, readOther⟩
      rw [ofItems, noFault']
      refine .mapM (List.forall₂_same.2 fun item itemIn => .mapError (.mapError ?_ _) _)
      refine alike_check (inLists items listed item itemIn) fun field fieldIn type found => ?_
      obtain ⟨text, rfl⟩ := areTexts items listed item itemIn field fieldIn type found
      exact ⟨text, rfl, alike text ⟨items, listed, item, itemIn, field, fieldIn, found⟩⟩

end Manifest

/-! ## Exchanged types make exchanged schemas -/

theorem Field.exchange_of_related {field other : Field}
    (exchanged : field.Related (TypeExpr.Exchanged first second) other) :
    field.type.MarkedBy first second ∧ field.exchange first second = other := by
  obtain ⟨name, marked, same⟩ := exchanged
  exact ⟨marked, by rw [exchange, name, same]⟩

theorem Schema.exchange_of_related {schema other : Schema}
    (exchanged : schema.Related (TypeExpr.Exchanged first second) other) :
    schema.MarkedBy first second ∧ schema.exchange first second = other := by
  obtain ⟨name, fields, flag⟩ := exchanged
  obtain ⟨marked, same⟩ :=
    forall₂_and_eq_iff.1 (fields.imp fun _ _ => Field.exchange_of_related)
  exact ⟨marked, by rw [exchange, name, same, flag]⟩

namespace Manifest

/-- A dotted name is among the words of the types of a manifest. -/
def WritesName (document : Datum) (name : String) : Prop :=
  ∃ text, WritesType document text ∧ TypeExpr.WritesName text name

/-- A marker that no name in the types of a manifest is taken for. -/
structure FreeMarker (document : Datum) (marker : String) : Prop
    extends TypeExpr.IsMarker marker where
  fresh : ∀ name, WritesName document name →
    TypeExpr.lastSegment name ≠ TypeExpr.lastSegment marker

/-- The schemas of a manifest under two free markers differ by the exchange of the two. -/
theorem schemas_exchange {document : Datum} (inLists : FieldsInLists document)
    (areTexts : TypesAreTexts document)
    (firstFree : FreeMarker document first) (secondFree : FreeMarker document second)
    {origin : String} {loaded : List Schema}
    (found : Manifest.schemas origin first document = .ok loaded) :
    (∀ schema ∈ loaded, schema.MarkedBy first second) ∧
      Manifest.schemas origin second document =
        .ok (loaded.map (Schema.exchange first second)) := by
  have alike (text : String) (written : WritesType document text) :
      Alike False (TypeExpr.Exchanged first second) (TypeExpr.read first text)
        (TypeExpr.read second text) :=
    TypeExpr.alike_read_exchanged firstFree.toIsMarker secondFree.toIsMarker fun name inText =>
      ⟨firstFree.fresh name ⟨text, written, inText⟩,
        secondFree.fresh name ⟨text, written, inText⟩⟩
  obtain ⟨others, foundOthers, each⟩ :=
    (alike_schemas inLists areTexts alike origin).exists_of_ok found
  obtain ⟨marked, rfl⟩ := forall₂_and_eq_iff.1 (each.imp fun _ _ => Schema.exchange_of_related)
  exact ⟨marked, foundOthers⟩

/-- The name of the marker is immaterial. A manifest that is loaded under any marker at all is loaded
under all that are free in its types, and a pass over what is loaded, with the same options
otherwise, returns the same operations, schemas and errors for all of them, or the same failure. -/
theorem generate_of_freeMarker (options : GenerationOptions) {document : Datum}
    (inLists : FieldsInLists document) (areTexts : TypesAreTexts document)
    {origin marker : String} {loaded : List Schema}
    (accepted : Manifest.schemas origin marker document = .ok loaded) {first second : String}
    (firstFree : FreeMarker document first) (secondFree : FreeMarker document second) :
    ∃ firstSchemas secondSchemas,
      Manifest.schemas origin first document = .ok firstSchemas ∧
      Manifest.schemas origin second document = .ok secondSchemas ∧
      Scope.generate { options with marker := first } firstSchemas =
        Scope.generate { options with marker := second } secondSchemas := by
  -- Of the marker that the manifest was accepted under nothing is known: a name in its types may
  -- be taken for it. So only that it was accepted is carried over to the first marker.
  have readable (text : String) (_ : WritesType document text) :
      Alike False (fun _ _ => True) (TypeExpr.read marker text) (TypeExpr.read first text) :=
    TypeExpr.alike_read (TypeExpr.visible_of_dottedName firstFree.dotted) marker text
  obtain ⟨firstSchemas, firstFound, -⟩ :=
    (alike_schemas inLists areTexts readable origin).exists_of_ok accepted
  obtain ⟨marked, secondFound⟩ := schemas_exchange inLists areTexts firstFree secondFree firstFound
  exact ⟨firstSchemas, _, firstFound, secondFound, (Scope.generate_exchange options marked).symm⟩

/-- A manifest of two schemas whose field types hold alternatives at two depths. -/
def nestedManifest : Datum :=
  .list [
    .mapping [(.text "name", .text "A"), (.text "default_constructible", .flag true),
      (.text "fields", .list [.mapping [(.text "name", .text "x"),
        (.text "type", .text "list[int | None] | None")]])],
    .mapping [(.text "name", .text "B"), (.text "default_constructible", .flag false),
      (.text "fields", .list [.mapping [(.text "name", .text "x"),
        (.text "type", .text "list[None | int]")]])]]

def nestedSchemas : List Schema :=
  [⟨"A", [⟨"x", .mk "Maybe" [.mk "list" [.mk "Maybe" [.bare "int"]]]⟩], true⟩,
    ⟨"B", [⟨"x", .mk "list" [.mk "Maybe" [.bare "int"]]⟩], false⟩]

theorem scan_nestedManifest :
    Token.scan "list[int | None] | None" = .ok [.word "list", .mark .openBracket, .word "int",
      .mark .bar, .word "None", .mark .closeBracket, .mark .bar, .word "None"] ∧
    Token.scan "list[None | int]" = .ok [.word "list", .mark .openBracket, .word "None",
      .mark .bar, .word "int", .mark .closeBracket] :=
  ⟨eq_ok_of_toOption (by decide +kernel), eq_ok_of_toOption (by decide +kernel)⟩

theorem schemas_nestedManifest :
    Manifest.schemas "scope" "Maybe" nestedManifest = .ok nestedSchemas := by
  have names : Text.isFieldName "x" ∧ Text.isFieldName "A" ∧ Text.isFieldName "B" := by
    decide +kernel
  have int : TypeExpr.DerivesAtom "Maybe" [.word "int"] (.bare "int") := .bare "int"
  have none : TypeExpr.DerivesAtom "Maybe" [.word "None"] .none := .bare "None"
  have intNone : TypeExpr.DerivesUnion "Maybe" [.word "int", .mark .bar, .word "None"]
      (.mk "Maybe" [.bare "int"]) := .intro (.more int (.last none)) (by decide)
  have noneInt : TypeExpr.DerivesUnion "Maybe" [.word "None", .mark .bar, .word "int"]
      (.mk "Maybe" [.bare "int"]) := .intro (.more none (.last int)) (by decide)
  have readFirst : TypeExpr.read "Maybe" "list[int | None] | None" =
      .ok (.mk "Maybe" [.mk "list" [.mk "Maybe" [.bare "int"]]]) :=
    TypeExpr.read_of_derives scan_nestedManifest.1
      (.intro (.more (.applied "list" (.last intNone)) (.last none)) (by decide))
  have readSecond : TypeExpr.read "Maybe" "list[None | int]" =
      .ok (.mk "list" [.mk "Maybe" [.bare "int"]]) :=
    TypeExpr.read_of_derives scan_nestedManifest.2
      (.intro (.last (.applied "list" (.last noneInt))) rfl)
  have checkedFirst := Schema.check_record names.2.1 true
    (.cons (Field.ofDatum_record names.1 readFirst) .nil)
  have checkedSecond := Schema.check_record names.2.2 false
    (.cons (Field.ofDatum_record names.1 readSecond) .nil)
  refine schemas_eq_ok rfl ?_ (.cons checkedFirst (.cons checkedSecond .nil)) "scope"
  refine List.forall_mem_cons.2 ⟨?_, List.forall_mem_singleton.2 ?_⟩
  · exact List.forall_mem_singleton.2 ((typeFault?_eq_none_iff _ _).2 ⟨_, readFirst⟩)
  · exact List.forall_mem_singleton.2 ((typeFault?_eq_none_iff _ _).2 ⟨_, readSecond⟩)

theorem writesName_nestedManifest {name : String} (written : WritesName nestedManifest name) :
    name ∈ ["list", "int", "None"] := by
  obtain ⟨text, ⟨items, ⟨⟩, item, itemIn, field, fieldIn, type⟩, tokens, scanned, member, -⟩ :=
    written
  obtain ⟨scanFirst, scanSecond⟩ := scan_nestedManifest
  have isType : text = "list[int | None] | None" ∨ text = "list[None | int]" := by
    rw [List.mem_cons, List.mem_singleton] at itemIn
    rcases itemIn with rfl | rfl
    · rw [List.mem_singleton.1 fieldIn] at type
      cases type
      exact .inl rfl
    · rw [List.mem_singleton.1 fieldIn] at type
      cases type
      exact .inr rfl
  rcases isType with rfl | rfl
  · rw [scanFirst] at scanned
    cases scanned
    simpa using member
  · rw [scanSecond] at scanned
    cases scanned
    simpa [or_comm] using member

/-- Both texts mean one type inside the marker, under `typing.Optional` as under `Maybe`. -/
theorem generate_of_freeMarker_nested :
    FieldsInLists nestedManifest ∧ TypesAreTexts nestedManifest ∧
    FreeMarker nestedManifest "Maybe" ∧ FreeMarker nestedManifest "typing.Optional" ∧
    Manifest.schemas "scope" "Maybe" nestedManifest = .ok nestedSchemas ∧
    ∃ others, Manifest.schemas "scope" "typing.Optional" nestedManifest = .ok others ∧
      Scope.generate ⟨"typing.Optional", false, false, false⟩ others = .ok
        ⟨[⟨.move, "B", "A", [⟨"x", "x", .plainToOptional⟩]⟩,
          ⟨.convert, "B", "A", [⟨"x", "x", .plainToOptional⟩]⟩,
          ⟨.move, "A", "B", [⟨"x", "x", .optionalToPlain⟩]⟩], [], ["A", "B"]⟩ := by
  have inLists : FieldsInLists nestedManifest := by
    rintro items ⟨⟩
    simp [fieldsOf, Datum.get?, Datum.lookup?, Datum.items?, Datum.list?]
  have areTexts : TypesAreTexts nestedManifest := by
    rintro items ⟨⟩
    simp [fieldsOf, Datum.get?, Datum.lookup?, Datum.items?]
  have free {marker : String} (isMarker : TypeExpr.IsMarker marker)
      (fresh : ∀ name ∈ ["list", "int", "None"],
        TypeExpr.lastSegment name ≠ TypeExpr.lastSegment marker) :
      FreeMarker nestedManifest marker :=
    ⟨isMarker, fun name written => fresh name (writesName_nestedManifest written)⟩
  have maybe : FreeMarker nestedManifest "Maybe" :=
    free ⟨.segment (by decide) (List.all_eq_true.1 (by decide)), by decide, by decide⟩ (by decide)
  have typingName : Token.DottedName ("typing".toList ++ '.' :: "Optional".toList) :=
    .dotted (by decide) (List.all_eq_true.1 (by decide))
      (.segment (by decide) (List.all_eq_true.1 (by decide)))
  have typingOptional : FreeMarker nestedManifest "typing.Optional" :=
    free ⟨typingName, by decide, by decide⟩ (by decide)
  obtain ⟨loaded, others, found, foundOthers, same⟩ :=
    generate_of_freeMarker ⟨"Maybe", false, false, false⟩ inLists areTexts
      schemas_nestedManifest maybe typingOptional
  obtain rfl : nestedSchemas = loaded := Except.ok.inj (schemas_nestedManifest.symm.trans found)
  refine ⟨inLists, areTexts, maybe, typingOptional, found, others, foundOthers, same.symm.trans ?_⟩
  decide +kernel

end Manifest

end Fieldwise
