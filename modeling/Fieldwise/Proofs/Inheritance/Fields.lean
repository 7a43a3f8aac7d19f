import Fieldwise.Proofs.Inheritance.Linearization
import Fieldwise.Proofs.Schema.Extraction

/-! # Inherited fields

Extraction looks at the bases of a class only and lays their fields over each other, those of later
bases below. The complete table of a class is made of the tables of all its ancestors, in the order
of their linearisation. Both find the same declaration of every name, if the class has a
linearisation at all (`RecordType.fields_linearized`). -/

namespace Fieldwise

open Source (Expr Statement)

/-- A field has the name, the type and the default status that a declaration supplies under a
marker. -/
structure Declaration.Gives (marker : String) (declaration : Declaration) (field : RecordField) :
    Prop where
  name : declaration.name = field.field.name
  type : declaration.type.declaredType marker = .ok field.field.type
  hasDefault : field.hasDefault = RecordType.givesDefault declaration.value

namespace RecordClass

def ofStatement? : Statement → Option RecordClass
  | .classDefinition head body => some ⟨head, body⟩
  | _ => none

def ofStatements (statements : List Statement) : List RecordClass :=
  statements.filterMap ofStatement?

/-- The classes that record types are extracted from, given the record types before them; the latest
one comes first. -/
def recorded (marker : String) (records : List RecordType) :
    List Statement → List RecordClass
  | [] => []
  | .classDefinition head body :: rest =>
    let isModel := head.bases.any (RecordType.isModelBase records)
    if isModel || head.decorators.any RecordType.decorates then
      match RecordType.ofClass marker records isModel head body with
      | .ok record => recorded marker (record :: records) rest ++ [⟨head, body⟩]
      | .error _ => []
    else recorded marker records rest
  | _ :: rest => recorded marker records rest

/-- The classes of a module that record types are extracted from, the latest first. -/
def extracted (marker : String) (statements : List Statement) : List RecordClass :=
  ((ofStatements statements).filter fun cls =>
    cls.name ∈ (RecordType.ofStatements marker [] statements).1.map (·.name)).reverse

end RecordClass

variable {marker : String} {imported : Expr → String} {cls : RecordClass}
  {classes : List RecordClass} {record : RecordType} {records : List RecordType}

/-! ## Extraction class by class -/

theorem RecordClass.reverse_recorded_sublist (marker : String) (records : List RecordType)
    (statements : List Statement) :
    (recorded marker records statements).reverse.Sublist (ofStatements statements) := by
  induction statements generalizing records with
  | nil => exact .slnil
  | cons statement rest ih =>
    cases statement with
    | classDefinition head body =>
      rw [recorded]
      split
      · cases RecordType.ofClass marker records
          (head.bases.any (RecordType.isModelBase records)) head body with
        | error error => exact List.nil_sublist _
        | ok record =>
          dsimp only
          rw [List.reverse_append]
          exact (ih (record :: records)).cons_cons _
      · exact (ih records).cons _
    | annotated _ _ _ => exact ih records
    | assigned _ _ => exact ih records
    | other => exact ih records

/-- Record types are extracted from classes, each with those before it at hand. -/
inductive Extracts (marker : String) : List RecordClass → List RecordType → Prop
  | nil : Extracts marker [] []
  | cons {cls : RecordClass} {classes : List RecordClass} {record : RecordType}
      {records : List RecordType} (isModel : Bool)
      (made : RecordType.ofClass marker records isModel cls.head cls.body = .ok record)
      (earlier : Extracts marker classes records) :
      Extracts marker (cls :: classes) (record :: records)

namespace Extracts

theorem names (extracts : Extracts marker classes records) :
    records.map (·.name) = classes.map (·.name) := by
  induction extracts with
  | nil => rfl
  | cons isModel made _ ih =>
    obtain ⟨-, own, -, rfl⟩ := RecordType.ofClass_eq_ok made
    rw [List.map_cons, List.map_cons, ih]
    rfl

/-- The record types of further statements are extracted from the classes there. -/
theorem recorded (extracts : Extracts marker classes records)
    (statements : List Statement) :
    Extracts marker (RecordClass.recorded marker records statements ++ classes)
      (RecordType.ofStatements marker records statements).1 := by
  induction statements generalizing classes records with
  | nil => exact extracts
  | cons statement rest ih =>
    cases statement with
    | classDefinition head body =>
      rw [RecordClass.recorded, RecordType.ofStatements]
      split
      · cases made : RecordType.ofClass marker records
          (head.bases.any (RecordType.isModelBase records)) head body with
        | error error => exact extracts
        | ok record =>
          have one : Extracts marker (⟨head, body⟩ :: classes) (record :: records) :=
            .cons _ made extracts
          rw [List.append_assoc]
          exact ih one
      · exact ih extracts
    | annotated _ _ _ => exact ih extracts
    | assigned _ _ => exact ih extracts
    | other => exact ih extracts

/-- The record types of a module are extracted from its classes. -/
theorem ofModule (marker : String) (statements : List Statement) :
    Extracts marker (RecordClass.recorded marker [] statements)
      (RecordType.ofStatements marker [] statements).1 := by
  have none : Extracts marker [] [] := .nil
  have extracts := none.recorded statements
  rwa [List.append_nil] at extracts

/-- Among classes of distinct names the record types of a module are extracted from those that have
their names. -/
theorem extracted {statements : List Statement}
    (distinct : ((RecordClass.ofStatements statements).map (·.name)).Nodup) :
    Extracts marker (RecordClass.extracted marker statements)
      (RecordType.ofStatements marker [] statements).1 := by
  have extracts := ofModule marker statements
  have kept := RecordClass.reverse_recorded_sublist marker [] statements
  have whole : (RecordClass.extracted marker statements).reverse =
      (RecordClass.recorded marker [] statements).reverse := by
    rw [RecordClass.extracted, List.reverse_reverse, extracts.names,
      eq_filter_key_of_sublist kept distinct]
    simp only [List.map_reverse, List.mem_reverse]
  rw [List.reverse_injective whole]
  exact extracts

end Extracts

/-! ## Fields and declarations -/

theorem gives_of_field? {statement : Statement} {found : Option RecordField}
    (declared : RecordType.field? marker statement = .ok found) :
    Option.Rel (Declaration.Gives marker) (Declaration.ofStatement? statement) found := by
  unfold RecordType.field? at declared
  split at declared
  · rename_i text type value
    rw [Declaration.ofStatement?]
    split at declared
    · rename_i skipped
      cases declared
      rw [if_pos skipped]
      exact .none
    · rename_i kept
      rw [if_neg kept]
      cases typed : type.declaredType marker with
      | error _ =>
        rw [typed] at declared
        cases declared
      | ok declaredType =>
        cases checked : RecordType.checkName "FieldDescriptor" "field" text with
        | error _ =>
          rw [typed, checked] at declared
          cases declared
        | ok _ =>
          rw [typed, checked] at declared
          cases declared
          exact .some ⟨rfl, typed, rfl⟩
  · rename_i noName
    cases declared
    unfold Declaration.ofStatement?
    split
    · exact absurd rfl (noName _ _ _)
    · exact .none

/-- A body gives one field for each declaration, in order. -/
theorem gives_ownFields {body : List Statement} {own : List RecordField}
    (declared : RecordType.ownFields marker body = .ok own) :
    List.Forall₂ (Declaration.Gives marker) (body.filterMap Declaration.ofStatement?) own := by
  induction body generalizing own with
  | nil =>
    cases declared
    exact .nil
  | cons statement rest ih =>
    rw [RecordType.ownFields] at declared
    cases first : RecordType.field? marker statement with
    | error _ =>
      rw [first] at declared
      cases declared
    | ok found =>
      cases others : RecordType.ownFields marker rest with
      | error _ =>
        rw [first, others] at declared
        cases declared
      | ok fields =>
        rw [first, others] at declared
        cases declared
        have one := gives_of_field? first
        rw [List.filterMap_cons]
        generalize Declaration.ofStatement? statement = declaration at one ⊢
        cases one with
        | none => exact ih others
        | some gives => exact .cons gives (ih others)

theorem findSome?_filterMap {α β γ : Type} (select : α → Option β) (find : β → Option γ)
    (items : List α) :
    (items.filterMap select).findSome? find =
      items.findSome? fun item => (select item).bind find := by
  induction items with
  | nil => rfl
  | cons item rest ih =>
    rw [List.filterMap_cons, List.findSome?_cons]
    cases select item with
    | none => exact ih
    | some result => rw [List.findSome?_cons, ih]; rfl

namespace RecordClass

variable {earlier : List RecordClass}

theorem ancestor_mem_parents {base : Expr} (member : base ∈ cls.head.bases) :
    ancestor imported earlier base ∈ cls.parents imported earlier := by
  rw [parents, if_neg (by simpa using List.ne_nil_of_mem member)]
  exact List.mem_map_of_mem member

/-- The root has nothing to find, so the parents are searched by searching the bases. -/
theorem findSome?_parents {α : Type} {find : Ancestor → Option α} (none : find .root = none) :
    (cls.parents imported earlier).findSome? find =
      cls.head.bases.findSome? fun base => find (ancestor imported earlier base) := by
  rw [parents]
  split
  · rename_i empty
    rw [List.isEmpty_iff.1 empty, List.findSome?_singleton, none]
    rfl
  · rw [List.findSome?_map]
    rfl

end RecordClass

namespace Extracts

theorem nodup_fields (extracts : Extracts marker classes records) :
    ∀ record ∈ records, (record.fields.map (·.field.name)).Nodup := by
  induction extracts with
  | nil => exact List.forall_mem_nil _
  | cons isModel made _ ih =>
    refine List.forall_mem_cons.2 ⟨?_, ih⟩
    obtain ⟨-, own, -, rfl⟩ := RecordType.ofClass_eq_ok made
    rw [RecordType.overlay_eq, RecordType.inherited_eq]
    exact nodup_overlayBy (nodup_overlays _)

/-- A field that is taken over is the one of the first base that has a field of its name. -/
theorem find?_inherited (extracts : Extracts marker classes records) (bases : List Expr)
    (wanted : String) :
    (RecordType.inherited records bases).1.find? (·.field.name == wanted) =
      bases.findSome? fun base => (RecordType.base? records base).bind fun record =>
        record.fields.find? (·.field.name == wanted) := by
  have distinct : ∀ table ∈ (bases.filterMap (RecordType.base? records)).reverse.map (·.fields),
      (table.map (·.field.name)).Nodup := by
    refine List.forall_mem_map.2 fun record member => extracts.nodup_fields record ?_
    obtain ⟨base, -, found⟩ := List.mem_filterMap.1 (List.mem_reverse.1 member)
    exact RecordType.mem_of_base? found
  rw [RecordType.inherited_eq, find?_overlays distinct, ← List.map_reverse, List.reverse_reverse,
    List.findSome?_map, findSome?_filterMap]
  rfl

/-- A base is the name of an earlier record type, or an imported class. -/
theorem base_cases (extracts : Extracts marker classes records) (base : Expr) :
    (∃ record ∈ records, RecordType.base? records base = some record ∧
      RecordClass.ancestor imported classes base = .declared record.name) ∨
    (RecordType.base? records base = none ∧
      RecordClass.ancestor imported classes base = .imported (imported base)) := by
  rw [RecordType.base?, RecordClass.ancestor, ← extracts.names]
  cases base.dotted? with
  | none => exact .inr ⟨rfl, rfl⟩
  | some text =>
    by_cases known : text ∈ records.map (·.name)
    · left
      obtain ⟨named, namedIn, isNamed⟩ := List.mem_map.1 known
      have present : (RecordType.find? records text).isSome :=
        List.find?_isSome.2 ⟨named, namedIn, beq_iff_eq.2 isNamed⟩
      obtain ⟨record, found⟩ := Option.isSome_iff_exists.1 present
      have sameName : record.name = text := by simpa using List.find?_some found
      refine ⟨record, List.mem_of_find?_eq_some found, found, ?_⟩
      simp only [Option.filter_some, known, decide_true, if_true, sameName]
    · right
      refine ⟨?_, ?_⟩
      · refine List.find?_eq_none.2 fun record member same => known ?_
        exact List.mem_map.2 ⟨record, member, beq_iff_eq.1 same⟩
      · simp only [Option.filter_some, known, decide_false]
        rfl

/-- The fields of the latest record type are given by the complete table of its class, if those of
all earlier ones are. -/
theorem fields_latest (earlier : Extracts marker classes records)
    (distinct : (classes.map (·.name)).Nodup) {isModel : Bool}
    (made : RecordType.ofClass marker records isModel cls.head cls.body = .ok record)
    {order : List Ancestor}
    (linearized : linearization? imported (cls :: classes) (.declared cls.name) = some order)
    (wanted : String)
    (before : ∀ base ∈ records, ∀ order,
      linearization? imported classes (.declared base.name) = some order →
        Option.Rel (Declaration.Gives marker)
          (declaration? imported classes wanted (.declared base.name))
          (base.fields.find? (·.field.name == wanted))) :
    Option.Rel (Declaration.Gives marker)
      (declaration? imported (cls :: classes) wanted (.declared cls.name))
      (record.fields.find? (·.field.name == wanted)) := by
  obtain ⟨-, own, declared, rfl⟩ := RecordType.ofClass_eq_ok made
  obtain ⟨orders, merged, rfl, mergedParents⟩ := linearization?_self linearized
  have ownGiven := find?_key_related (fun _ _ gives => gives.name)
    (List.rel_reverse (gives_ownFields declared)) wanted
  rw [declaration?_self linearized, mergedParents.findSome?_parents distinct,
    RecordClass.findSome?_parents (declaration?_imported classes _), RecordType.overlay_eq,
    find?_overlayBy, earlier.find?_inherited]
  have bases : List.Forall₂ (fun base other => base = other ∧ base ∈ cls.head.bases)
      cls.head.bases cls.head.bases :=
    List.forall₂_same.2 fun base baseIn => ⟨rfl, baseIn⟩
  refine rel_or ownGiven (rel_findSome? bases ?_)
  rintro base _ ⟨rfl, baseIn⟩
  have parentIn : RecordClass.ancestor imported classes base ∈ cls.parents imported classes :=
    RecordClass.ancestor_mem_parents baseIn
  obtain ⟨order, -, found⟩ := exists_of_forall₂ mergedParents.each.flip _ parentIn
  rcases earlier.base_cases base with ⟨named, namedIn, isBase, isNamed⟩ | ⟨noBase, isImported⟩
  · rw [isNamed] at found ⊢
    rw [isBase]
    exact before named namedIn order found
  · rw [isImported, noBase, declaration?_imported]
    exact .none

/-- Every field of a record type is given by the declaration of its name in the complete table of
its class, if the class has a linearisation. -/
theorem fields (extracts : Extracts marker classes records)
    (distinct : (classes.map (·.name)).Nodup) (member : record ∈ records) {order : List Ancestor}
    (linearized : linearization? imported classes (.declared record.name) = some order)
    (wanted : String) :
    Option.Rel (Declaration.Gives marker)
      (declaration? imported classes wanted (.declared record.name))
      (record.fields.find? (·.field.name == wanted)) := by
  induction extracts generalizing record order with
  | nil => cases member
  | @cons cls classes latest records isModel made earlier ih =>
    obtain ⟨fresh, distinctEarlier⟩ := List.nodup_cons.1 distinct
    rcases List.mem_cons.1 member with rfl | inEarlier
    · have sameName : record.name = cls.name := by
        obtain ⟨-, own, -, rfl⟩ := RecordType.ofClass_eq_ok made
        rfl
      rw [sameName] at linearized ⊢
      exact earlier.fields_latest distinctEarlier made linearized wanted
        fun base baseIn order found => ih distinctEarlier baseIn found
    · have known : record.name ∈ classes.map (·.name) := by
        rw [← earlier.names]
        exact List.mem_map_of_mem inEarlier
      have apart : Ancestor.declared record.name ≠ .declared cls.name := by
        intro same
        rw [Ancestor.declared.inj same] at known
        exact fresh known
      rw [linearization?_cons_of_ne apart] at linearized
      rw [declaration?_cons_of_ne apart]
      exact ih distinctEarlier inEarlier linearized

end Extracts

/-- Inheritance picks the declaration that the linearised ancestors pick. In a module of classes
with distinct names, let a record type be extracted from a class that has a linearisation, where
every base is the name of an earlier record class or else an imported class. A name is a field of
the record type exactly if it is declared in the complete table of the class, and that declaration
gives the type of the field and whether it has a default. -/
theorem RecordType.fields_linearized {statements : List Statement}
    (distinct : ((RecordClass.ofStatements statements).map (·.name)).Nodup)
    (member : record ∈ (RecordType.ofStatements marker [] statements).1) {order : List Ancestor}
    (linearized : linearization? imported (RecordClass.extracted marker statements)
      (.declared record.name) = some order) (wanted : String) :
    Option.Rel (Declaration.Gives marker)
      ((completeTable imported (RecordClass.extracted marker statements)
        (.declared record.name)).find? (·.name == wanted))
      (record.fields.find? (·.field.name == wanted)) := by
  have extracts : Extracts marker (RecordClass.extracted marker statements)
      (RecordType.ofStatements marker [] statements).1 := .extracted distinct
  have distinctExtracted : ((RecordClass.extracted marker statements).map (·.name)).Nodup := by
    rw [RecordClass.extracted, List.map_reverse, List.nodup_reverse]
    exact distinct.sublist (List.filter_sublist.map _)
  exact extracts.fields distinctExtracted member linearized wanted

/-- Four data classes, the last of which reaches the first one in two ways. -/
def diamondModule : List Statement :=
  [.classDefinition ⟨1, "A", [.name "dataclass"], [.name "BaseModel"]⟩
      [.annotated (.name "x") (.name "int") none, .annotated (.name "y") (.name "int") none],
    .classDefinition ⟨4, "B", [.name "dataclass"], [.name "A"]⟩
      [.annotated (.name "x") (.name "str") none],
    .classDefinition ⟨6, "C", [.name "dataclass"], [.name "A"]⟩
      [.annotated (.name "y") (.name "str") none],
    .classDefinition ⟨8, "D", [.name "dataclass"], [.name "B", .name "C"]⟩ []]

/-- Although `C` comes before `A` among the ancestors of `D`, the declaration of `y` in `A` counts:
it is in the complete table of `B`, which lies over that of `C`. -/
theorem RecordType.fields_linearized_diamond :
    ((RecordClass.ofStatements diamondModule).map (·.name)).Nodup ∧
    linearization? (fun _ => "BaseModel") (RecordClass.extracted "Optional" diamondModule)
        (.declared "D") =
      some [.declared "D", .declared "B", .declared "C", .declared "A", .imported "BaseModel",
        .root] ∧
    ∃ record ∈ (RecordType.ofStatements "Optional" [] diamondModule).1, record.name = "D" ∧
      ∃ field, record.fields.find? (·.field.name == "y") = some field ∧
        field.field.type = .bare "int" := by
  have distinct : ((RecordClass.ofStatements diamondModule).map (·.name)).Nodup := by decide
  have linearized : linearization? (fun _ => "BaseModel")
      (RecordClass.extracted "Optional" diamondModule) (.declared "D") =
        some [.declared "D", .declared "B", .declared "C", .declared "A", .imported "BaseModel",
          .root] := by
    decide +kernel
  have named : ∃ record ∈ (RecordType.ofStatements "Optional" [] diamondModule).1,
      record.name = "D" := by
    have present : "D" ∈ (RecordType.ofStatements "Optional" [] diamondModule).1.map (·.name) := by
      decide +kernel
    exact List.mem_map.1 present
  obtain ⟨record, member, isD⟩ := named
  refine ⟨distinct, linearized, record, member, isD, ?_⟩
  rw [← isD] at linearized
  have given := fields_linearized distinct member linearized "y"
  have declared : ((completeTable (fun _ => "BaseModel")
      (RecordClass.extracted "Optional" diamondModule) (.declared "D")).find? (·.name == "y")).map
        (fun declaration => (declaration.type.declaredType "Optional").toOption) =
          some (some (.bare "int")) := by
    decide +kernel
  obtain ⟨declaration, isDeclared, typed⟩ := Option.map_eq_some_iff.1 declared
  rw [isD, isDeclared] at given
  generalize record.fields.find? (·.field.name == "y") = found at given ⊢
  cases given with
  | some gives =>
    exact ⟨_, rfl, Except.ok.inj (gives.type.symm.trans (eq_ok_of_toOption typed))⟩

end Fieldwise
