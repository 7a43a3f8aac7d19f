import Fieldwise.Proofs.Comparison
import Fieldwise.Proofs.Schema.Markers
import Fieldwise.Proofs.Type.OptionalTexts

/-! # Manifests that spell optional types in different ways

Two manifests are alike if they differ only in how some of their field types are made optional. Each
of these types is read in both, as types of one shape, so both manifests are refused with the same
error or give schemas whose shapes agree, and a pass over them returns the same
(`Manifest.generate_respelled`). -/

namespace Fieldwise

namespace Manifest

/-- Two texts that make the type of one text optional. -/
def RespelledType (marker : String) (type other : Datum) : Prop :=
  ∃ text otherText, type = .text text ∧ other = .text otherText ∧
    TypeExpr.Respelled marker text otherText

/-- Two fields that are equal but for the spelling of their types. -/
def RespelledField (marker : String) : Datum → Datum → Prop :=
  Datum.AlikeUnder "type" (RespelledType marker)

/-- Two items that are equal but for the spelling of types in their lists of fields. Fields in other
sequences are read with the default marker. -/
def RespelledItem (marker : String) : Datum → Datum → Prop :=
  Datum.AlikeUnder "fields" (Datum.AlikeEach (RespelledField marker))

/-- Two manifests that are equal but for the spelling of some field types. -/
def Respelled (marker : String) (document other : Datum) : Prop :=
  Datum.AlikeEach (RespelledItem marker) document other ∨
    Datum.AlikeUnder listKey (Datum.AlikeEach (RespelledItem marker)) document other

end Manifest

variable {marker : String}

/-! ## Checks of fields and of schemas -/

theorem Field.alike_checkType (dotted : Token.DottedName marker.toList) {type other : Datum}
    (respelled : Manifest.RespelledType marker type other) :
    Alike True (TypeExpr.SameShape marker) (checkType marker type) (checkType marker other) := by
  obtain ⟨text, otherText, rfl, rfl, respelled⟩ := respelled
  obtain ⟨found, foundOther, read, readOther, sameShape⟩ := respelled.read_eq dotted
  rw [checkType, checkType, read, readOther]
  exact .value sameShape

theorem Field.Related.refl {related : TypeExpr → TypeExpr → Prop}
    (reflexive : ∀ type, related type type) (field : Field) : field.Related related field :=
  ⟨rfl, reflexive _⟩

theorem Schema.Related.refl {related : TypeExpr → TypeExpr → Prop}
    (reflexive : ∀ type, related type type) (schema : Schema) : schema.Related related schema :=
  ⟨rfl, List.forall₂_same.2 fun _ _ => .refl reflexive _, rfl⟩

namespace Manifest

theorem RespelledField.ofDatum (dotted : Token.DottedName marker.toList) {datum other : Datum}
    (respelled : RespelledField marker datum other) :
    Alike True (Field.Related (TypeExpr.SameShape marker)) (Field.ofDatum marker datum)
      (Field.ofDatum marker other) := by
  cases respelled with
  | same => exact .refl (.refl (.refl marker)) _
  | mapping each =>
    refine Field.alike_ofDatum each.equalApart (rel_imp (each.lookup? "type") ?_)
    rintro type otherType (rfl | ⟨-, differ⟩)
    · exact .refl (.refl marker) _
    · exact Field.alike_checkType dotted differ

theorem RespelledItem.check (dotted : Token.DottedName marker.toList) {item other : Datum}
    (respelled : RespelledItem marker item other) :
    Alike True (Schema.Related (TypeExpr.SameShape marker)) (Schema.check marker item)
      (Schema.check marker other) := by
  cases respelled with
  | same => exact .refl (.refl (.refl marker)) _
  | mapping each =>
    refine Schema.alike_check each.equalApart (rel_imp (each.lookup? "fields") ?_)
    rintro sequence otherSequence (rfl | ⟨-, same | fields⟩)
    · exact .refl (fun _ => List.forall₂_same.2 fun _ _ => .refl (.refl marker) _) _
    · exact .refl (fun _ => List.forall₂_same.2 fun _ _ => .refl (.refl marker) _) _
    · exact .checkEach (fields.imp fun _ _ => RespelledField.ofDatum dotted) 0

end Manifest

namespace Manifest

/-! ## The types that are read before all checks -/

theorem list?_alike {holds : Datum → Datum → Prop} (reflexive : ∀ item, holds item item)
    {datum other : Datum} (alike : Datum.AlikeEach holds datum other) :
    Option.Rel (List.Forall₂ holds) datum.list? other.list? := by
  cases alike with
  | same => exact rel_self fun items _ => List.forall₂_same.2 fun item _ => reflexive item
  | list each => exact .some each

/-- The sequences under a key are alike item by item. -/
theorem lookup?_list?_alike {key : String} {holds : Datum → Datum → Prop}
    (reflexive : ∀ item, holds item item) {entries others : List (Datum × Datum)}
    (each : Datum.EntriesAlike key (Datum.AlikeEach holds) entries others) :
    Option.Rel (List.Forall₂ holds) ((Datum.lookup? key entries).bind Datum.list?)
      ((Datum.lookup? key others).bind Datum.list?) := by
  have found := each.lookup? key
  generalize Datum.lookup? key entries = first at found ⊢
  generalize Datum.lookup? key others = second at found ⊢
  cases found with
  | none => exact .none
  | some alike =>
    rcases alike with rfl | ⟨-, differ⟩
    · exact list?_alike reflexive (.same _)
    · exact list?_alike reflexive differ

/-- The items of both manifests are alike, or neither is a list of items. -/
theorem items?_alike {document other : Datum} (respelled : Respelled marker document other) :
    Option.Rel (List.Forall₂ (RespelledItem marker)) (items? document) (items? other) := by
  have same (document : Datum) :
      Option.Rel (List.Forall₂ (RespelledItem marker)) (items? document) (items? document) :=
    rel_self fun items _ => List.forall₂_same.2 fun item _ => .same item
  rcases respelled with alike | alike
  · cases alike with
    | same => exact same document
    | list each => exact .some each
  · cases alike with
    | same => exact same document
    | mapping each => exact lookup?_list?_alike .same each

/-- A respelled type is read in both fields, and every other text is the same in both. -/
theorem typeFault?_alike (dotted : Token.DottedName marker.toList) {field other : Datum}
    (respelled : RespelledField marker field other) :
    Option.Rel (fun text otherText => typeFault? marker text = typeFault? marker otherText)
      ((field.get? "type").bind Datum.text?) ((other.get? "type").bind Datum.text?) := by
  have same (text? : Option String) : Option.Rel
      (fun text otherText => typeFault? marker text = typeFault? marker otherText) text? text? :=
    rel_self fun text _ => rfl
  cases respelled with
  | same => exact same _
  | @mapping entries others each =>
    have found := each.lookup? "type"
    rw [Datum.get?, Datum.get?]
    generalize Datum.lookup? "type" entries = first at found ⊢
    generalize Datum.lookup? "type" others = second at found ⊢
    cases found with
    | none => exact .none
    | some alike =>
      rcases alike with rfl | ⟨-, text, otherText, rfl, rfl, respelled⟩
      · exact same _
      · obtain ⟨type, otherType, read, readOther, -⟩ := respelled.read_eq dotted
        have fault : typeFault? marker text = none := (typeFault?_eq_none_iff _ _).2 ⟨_, read⟩
        have otherFault : typeFault? marker otherText = none :=
          (typeFault?_eq_none_iff _ _).2 ⟨_, readOther⟩
        exact .some (fault.trans otherFault.symm)

/-- Respelled items have the same first type that cannot be read. -/
theorem itemFault?_alike (dotted : Token.DottedName marker.toList) {item other : Datum}
    (respelled : RespelledItem marker item other) :
    itemFault? marker item = itemFault? marker other := by
  cases respelled with
  | same => rfl
  | @mapping entries others each =>
    have sameName : (Datum.mapping entries).get? "name" = (Datum.mapping others).get? "name" :=
      each.equalApart.lookup?_eq _ (by decide)
    have fields := lookup?_list?_alike .same each
    have sameFault : (typeTexts (.mapping entries)).findSome? (typeFault? marker) =
        (typeTexts (.mapping others)).findSome? (typeFault? marker) := by
      rw [typeTexts, typeTexts, Datum.get?, Datum.get?]
      generalize (Datum.lookup? "fields" entries).bind Datum.list? = first at fields ⊢
      generalize (Datum.lookup? "fields" others).bind Datum.list? = second at fields ⊢
      cases fields with
      | none => rfl
      | some each =>
        have texts := List.rel_filterMap (fun _ _ alike => typeFault?_alike dotted alike) each
        exact findSome?_eq_of_forall₂ texts fun _ _ => id
    rw [itemFault?, itemFault?, sameFault, sameName]

/-! ## Whole manifests -/

theorem schemas_alike (dotted : Token.DottedName marker.toList) {document other : Datum}
    (respelled : Respelled marker document other) (origin : String) :
    Alike True (List.Forall₂ (Schema.Related (TypeExpr.SameShape marker)))
      (schemas origin marker document) (schemas origin marker other) := by
  have items := items?_alike respelled
  rw [schemas, schemas]
  generalize items? document = first at items ⊢
  generalize items? other = second at items ⊢
  cases items with
  | none => exact .error _
  | some each =>
    apply Alike.mapError
    rw [ofItems, ofItems, findSome?_eq_of_forall₂ each fun _ _ => itemFault?_alike dotted]
    split
    · exact .error _
    · refine .mapM (each.imp fun _ _ alike => ?_)
      exact ((RespelledItem.check dotted alike).mapError _).mapError _

end Manifest

/-- Schemas of types that are classified alike have the same operations. -/
theorem Scope.generate_sameShape (options : GenerationOptions) {schemas others : List Schema}
    (each : List.Forall₂ (Schema.Related (TypeExpr.SameShape marker)) schemas others) :
    generate { options with marker := marker } schemas =
      generate { options with marker := marker } others := by
  have unique : Relator.BiUnique (Eq : TypeExpr → TypeExpr → Prop) :=
    ⟨fun _ _ _ same same' => same.trans same'.symm, fun _ _ _ same same' => same.symm.trans same'⟩
  refine generate_related options unique (each.imp fun schema other alike => ?_)
  refine ⟨alike.name, alike.fields.imp fun field otherField same => ⟨same.name, ?_⟩,
    alike.defaultConstructible⟩
  have sameShape : field.type.shape marker = otherField.type.shape marker := same.type
  exact ⟨congrArg Shape.optional sameShape, congrArg Shape.inner sameShape⟩

namespace Manifest

/-- How a type is made optional is immaterial. Each of the four texts is classified as optional with
the same type inside. So manifests that differ only in which of them some field types are written as
are refused with the same error, or a pass over their schemas returns the same operations, schemas
and errors for both, or the same failure. -/
theorem generate_respelled (dotted : Token.DottedName marker.toList)
    (options : GenerationOptions) :
    (∀ inner text, TypeExpr.IsAtomText marker inner → TypeExpr.OptionalText marker inner text →
      ∃ innerType type, TypeExpr.read marker inner = .ok innerType ∧
        TypeExpr.read marker text = .ok type ∧ type.shape marker = ⟨true, innerType⟩) ∧
    ∀ document other, Respelled marker document other → ∀ origin,
      (Manifest.schemas origin marker document).map
          (Scope.generate { options with marker := marker }) =
        (Manifest.schemas origin marker other).map
          (Scope.generate { options with marker := marker }) := by
  constructor
  · intro inner text atom spelled
    exact spelled.shape dotted atom
  · intro document other respelled origin
    exact (schemas_alike dotted respelled origin).map_eq fun _ _ => Scope.generate_sameShape options

/-- The manifest `nestedManifest` with another spelling of its first type. -/
def respelledManifest : Datum :=
  .list [
    .mapping [(.text "name", .text "A"), (.text "default_constructible", .flag true),
      (.text "fields", .list [.mapping [(.text "name", .text "x"),
        (.text "type", .text "typing.Maybe[list[int | None]]")]])],
    .mapping [(.text "name", .text "B"), (.text "default_constructible", .flag false),
      (.text "fields", .list [.mapping [(.text "name", .text "x"),
        (.text "type", .text "list[None | int]")]])]]

/-- The text inside the marker holds alternatives itself. -/
theorem isAtomText_list : TypeExpr.IsAtomText "Maybe" "list[int | None]" := by
  refine ⟨.applied "list" (.last (.more (.bare "int") (.last (.bare "None")))), ?_, by decide⟩
  exact eq_ok_of_toOption (by decide +kernel)

theorem respelled_nestedManifest : Respelled "Maybe" nestedManifest respelledManifest := by
  have lead : Token.DottedName "typing".toList :=
    .segment (by decide) (List.all_eq_true.1 (by decide))
  have type : RespelledType "Maybe" (.text "list[int | None] | None")
      (.text "typing.Maybe[list[int | None]]") :=
    ⟨_, _, rfl, rfl, "list[int | None]", isAtomText_list, .noneAfter, .dotted lead⟩
  have field : RespelledField "Maybe"
      (.mapping [(.text "name", .text "x"), (.text "type", .text "list[int | None] | None")])
      (.mapping [(.text "name", .text "x"),
        (.text "type", .text "typing.Maybe[list[int | None]]")]) :=
    .mapping (.cons ⟨rfl, .inl rfl⟩ (.cons ⟨rfl, .inr ⟨rfl, type⟩⟩ .nil))
  have fields := Datum.AlikeEach.list (.cons field .nil)
  refine .inl (.list (.cons (.mapping ?_) (.cons (.same _) .nil)))
  exact .cons ⟨rfl, .inl rfl⟩ (.cons ⟨rfl, .inl rfl⟩ (.cons ⟨rfl, .inr ⟨rfl, fields⟩⟩ .nil))

/-- A dotted name before the marker gives the operations that `None` after the type gives. -/
theorem generate_respelled_nested : Token.DottedName "Maybe".toList ∧
    Respelled "Maybe" nestedManifest respelledManifest ∧
    (Manifest.schemas "scope" "Maybe" respelledManifest).map
        (Scope.generate ⟨"Maybe", false, false, false⟩) = .ok (.ok
      ⟨[⟨.move, "B", "A", [⟨"x", "x", .plainToOptional⟩]⟩,
        ⟨.convert, "B", "A", [⟨"x", "x", .plainToOptional⟩]⟩,
        ⟨.move, "A", "B", [⟨"x", "x", .optionalToPlain⟩]⟩], [], ["A", "B"]⟩) := by
  have dotted : Token.DottedName "Maybe".toList :=
    .segment (by decide) (List.all_eq_true.1 (by decide))
  have same := (generate_respelled dotted ⟨"Maybe", false, false, false⟩).2 _ _
    respelled_nestedManifest "scope"
  refine ⟨dotted, respelled_nestedManifest, same.symm.trans ?_⟩
  rw [schemas_nestedManifest]
  refine congrArg Except.ok ?_
  decide +kernel

end Manifest

end Fieldwise
