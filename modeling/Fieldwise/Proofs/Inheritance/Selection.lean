import Fieldwise.Proofs.Inheritance.Fields

/-! # Which classes are record classes

A class of a module is a record class if it is decorated as a data class or derives from the model
class, by a base of that name or through earlier record classes. `RecordClass.Selects` says so for
all classes of a module: whether a class is one of them depends on those before it. Deriving from a
data class alone makes no record class. The flags that extraction keeps about its record types say
exactly which of them derive from the model class (`Marks`), so it finds the record classes of a
module and no others (`Schema.ofModule_selection`). -/

namespace Fieldwise

open Source (Expr Statement)

namespace RecordClass

/-- A class with a decorator, called or not, that is the name `dataclass`, at most with a path in
front. -/
def IsDataClass (cls : RecordClass) : Prop :=
  ∃ decorator ∈ cls.head.decorators, ∃ target : Expr, target.head? = some "dataclass" ∧
    (decorator = target ∨ ∃ arguments keywords, decorator = .call target arguments keywords)

/-- The latest class of its name among some classes, and the classes before it. Later classes come
first. -/
def IsLatest (classes : List RecordClass) (cls : RecordClass) (earlier : List RecordClass) : Prop :=
  ∃ later, classes = later ++ cls :: earlier ∧ ∀ other ∈ later, other.name ≠ cls.name

/-- A class that derives from the model class, given the record classes before it: it has a base of
that name, or the name of an earlier record class as a base, the latest of which derives from the
model class. -/
inductive IsModel : List RecordClass → RecordClass → Prop
  | base {records : List RecordClass} {cls : RecordClass} {base : Expr}
      (listed : base ∈ cls.head.bases) (named : base.head? = some "BaseModel") : IsModel records cls
  | parent {records earlier : List RecordClass} {cls parent : RecordClass}
      (listed : .name parent.name ∈ cls.head.bases) (latest : IsLatest records parent earlier)
      (derives : IsModel earlier parent) : IsModel records cls

/-- A record class, given the record classes before it. -/
def IsRecordClass (records : List RecordClass) (cls : RecordClass) : Prop :=
  cls.IsDataClass ∨ IsModel records cls

/-- The record classes among some classes. Later classes come first in both lists. -/
inductive Selects : List RecordClass → List RecordClass → Prop
  | nil : Selects [] []
  | record {cls : RecordClass} {classes records : List RecordClass}
      (earlier : Selects classes records) (isRecord : IsRecordClass records cls) :
      Selects (cls :: classes) (cls :: records)
  | other {cls : RecordClass} {classes records : List RecordClass}
      (earlier : Selects classes records) (noRecord : ¬ IsRecordClass records cls) :
      Selects (cls :: classes) records

variable {classes earlier records others : List RecordClass} {cls : RecordClass}

/-- It is settled which classes are record classes. -/
theorem Selects.unique (selects : Selects classes records) (also : Selects classes others) :
    others = records := by
  induction selects generalizing others with
  | nil =>
    cases also
    rfl
  | record _ isRecord ih =>
    cases also with
    | record otherEarlier _ => rw [ih otherEarlier]
    | other otherEarlier noRecord =>
      rw [ih otherEarlier] at noRecord
      exact absurd isRecord noRecord
  | other _ noRecord ih =>
    cases also with
    | record otherEarlier isRecord =>
      rw [ih otherEarlier] at isRecord
      exact absurd isRecord noRecord
    | other otherEarlier _ => exact ih otherEarlier

/-- The record classes among later and earlier classes are some of the later ones and those among
the earlier ones. -/
theorem Selects.of_append {later selected : List RecordClass}
    (selects : Selects (later ++ classes) selected) (before : Selects classes records) :
    ∃ after, after.Sublist later ∧ selected = after ++ records := by
  induction later generalizing selected with
  | nil => exact ⟨[], .slnil, before.unique selects⟩
  | cons first rest ih =>
    cases selects with
    | record earlier _ =>
      obtain ⟨after, kept, rfl⟩ := ih earlier
      exact ⟨first :: after, kept.cons_cons first, rfl⟩
    | other earlier _ =>
      obtain ⟨after, kept, rfl⟩ := ih earlier
      exact ⟨after, kept.cons first, rfl⟩

/-- Deriving from record classes alone makes no record class, unless one of them derives from the
model class. -/
theorem not_isRecordClass (plain : ¬ cls.IsDataClass)
    (noModel : ∀ base ∈ cls.head.bases, base.head? ≠ some "BaseModel")
    (noChain : ∀ parent earlier, .name parent.name ∈ cls.head.bases →
      IsLatest records parent earlier → ¬ parent.IsModel earlier) :
    ¬ cls.IsRecordClass records := by
  rintro (decorated | ⟨listed, named⟩ | ⟨listed, latest, derives⟩)
  · exact plain decorated
  · exact noModel _ listed named
  · exact noChain _ _ listed latest derives

theorem isLatest_cons_iff {parent : RecordClass} : IsLatest (cls :: classes) parent earlier ↔
    (cls = parent ∧ classes = earlier) ∨
      (cls.name ≠ parent.name ∧ IsLatest classes parent earlier) := by
  constructor
  · rintro ⟨later, same, apart⟩
    cases later with
    | nil =>
      cases same
      exact .inl ⟨rfl, rfl⟩
    | cons first rest =>
      cases same
      obtain ⟨firstApart, restApart⟩ := List.forall_mem_cons.1 apart
      exact .inr ⟨firstApart, rest, rfl, restApart⟩
  · rintro (⟨rfl, rfl⟩ | ⟨apart, later, rfl, restApart⟩)
    · exact ⟨[], rfl, List.forall_mem_nil _⟩
    · exact ⟨cls :: later, rfl, List.forall_mem_cons.2 ⟨apart, restApart⟩⟩

/-! ## What extraction tests -/

theorem decorates_iff (decorator : Expr) : RecordType.decorates decorator ↔
    ∃ target : Expr, target.head? = some "dataclass" ∧
      (decorator = target ∨ ∃ arguments keywords, decorator = .call target arguments keywords) := by
  unfold RecordType.decorates
  split
  · rename_i function arguments keywords
    rw [beq_iff_eq]
    constructor
    · exact fun named => ⟨function, named, .inr ⟨arguments, keywords, rfl⟩⟩
    · rintro ⟨target, named, rfl | ⟨_, _, ⟨⟩⟩⟩
      · cases named
      · exact named
  · rename_i noCall
    rw [beq_iff_eq]
    constructor
    · exact fun named => ⟨decorator, named, .inl rfl⟩
    · rintro ⟨target, named, rfl | ⟨_, _, rfl⟩⟩
      · exact named
      · exact absurd rfl (noCall _ _ _)

theorem any_decorates_iff (cls : RecordClass) :
    cls.head.decorators.any RecordType.decorates ↔ cls.IsDataClass := by
  simp only [List.any_eq_true, decorates_iff, IsDataClass]

end RecordClass

theorem Text.point_notMem_of_isFieldName {text : String} (accepted : isFieldName text) :
    '.' ∉ text.toList := by
  rw [isFieldName, isIdentifier, Bool.and_eq_true] at accepted
  obtain ⟨identifier, -⟩ := accepted
  split at identifier
  · cases identifier
  · rename_i first rest same
    rw [Bool.and_eq_true, List.all_eq_true] at identifier
    obtain ⟨start, parts⟩ := identifier
    rw [same, List.mem_cons, not_or]
    refine ⟨?_, fun inside => ?_⟩
    · rintro rfl
      exact absurd start (by decide)
    · exact absurd (parts '.' inside) (by decide)

/-- A dotted name without a dot is a plain one. -/
theorem Source.Expr.eq_name_of_dotted? {expr : Expr} {text : String}
    (found : expr.dotted? = some text) (plain : '.' ∉ text.toList) : expr = .name text := by
  unfold dotted? at found
  split at found
  · cases found
    rfl
  · obtain ⟨base, -, rfl⟩ := Option.map_eq_some_iff.1 found
    simp [String.toList_append] at plain
  · cases found

/-! ## The flags of record types -/

/-- Record types that know which of their classes derive from the model class. -/
inductive Marks : List RecordClass → List RecordType → Prop
  | nil : Marks [] []
  | cons {cls : RecordClass} {classes : List RecordClass} {record : RecordType}
      {records : List RecordType} (accepted : Text.isFieldName cls.name)
      (named : record.name = cls.name) (marked : record.isModel ↔ cls.IsModel classes)
      (earlier : Marks classes records) : Marks (cls :: classes) (record :: records)

variable {marker : String} {classes selected : List RecordClass} {records : List RecordType}

namespace Marks

/-- The flag of the record type of a name is that of the latest class of this name. -/
theorem isModel_find?_iff (marks : Marks classes records) (wanted : String) :
    ((RecordType.find? records wanted).map (·.isModel)).getD false ↔
      ∃ parent earlier, parent.name = wanted ∧ RecordClass.IsLatest classes parent earlier ∧
        parent.IsModel earlier := by
  induction marks with
  | nil =>
    refine iff_of_false Bool.false_ne_true ?_
    rintro ⟨parent, earlier, -, ⟨later, same, -⟩, -⟩
    cases later <;> cases same
  | @cons cls classes record records _ named marked _ ih =>
    simp only [RecordClass.isLatest_cons_iff]
    rw [RecordType.find?, List.find?_cons]
    split
    · rename_i isNamed
      rw [beq_iff_eq, named] at isNamed
      refine marked.trans ⟨fun derives => ?_, ?_⟩
      · exact ⟨cls, classes, isNamed, .inl ⟨rfl, rfl⟩, derives⟩
      · rintro ⟨parent, earlier, rfl, ⟨rfl, rfl⟩ | ⟨apart, -⟩, derives⟩
        · exact derives
        · exact absurd isNamed apart
    · rename_i notNamed
      rw [beq_eq_false_iff_ne, named] at notNamed
      refine ih.trans ⟨?_, ?_⟩
      · rintro ⟨parent, earlier, rfl, latest, derives⟩
        exact ⟨parent, earlier, rfl, .inr ⟨notNamed, latest⟩, derives⟩
      · rintro ⟨parent, earlier, rfl, ⟨rfl, rfl⟩ | ⟨-, latest⟩, derives⟩
        · exact absurd rfl notNamed
        · exact ⟨parent, earlier, rfl, latest, derives⟩

theorem accepted_of_isLatest (marks : Marks classes records) {parent : RecordClass}
    {earlier : List RecordClass} (latest : RecordClass.IsLatest classes parent earlier) :
    Text.isFieldName parent.name := by
  induction marks with
  | nil =>
    obtain ⟨later, same, -⟩ := latest
    cases later <;> cases same
  | cons accepted _ _ _ ih =>
    rcases RecordClass.isLatest_cons_iff.1 latest with ⟨rfl, -⟩ | ⟨-, latest⟩
    · exact accepted
    · exact ih latest

/-- A base makes a class a record class by its name, or as the name of a class that derives from the
model class. -/
theorem isModelBase_iff (marks : Marks classes records) (base : Expr) :
    RecordType.isModelBase records base ↔ base.head? = some "BaseModel" ∨
      ∃ parent earlier, base = .name parent.name ∧ RecordClass.IsLatest classes parent earlier ∧
        parent.IsModel earlier := by
  rw [RecordType.isModelBase, Bool.or_eq_true, beq_iff_eq, RecordType.base?]
  refine or_congr_right ?_
  cases found : base.dotted? with
  | none =>
    refine iff_of_false Bool.false_ne_true ?_
    rintro ⟨parent, earlier, rfl, -, -⟩
    cases found
  | some text =>
    refine (marks.isModel_find?_iff text).trans ⟨?_, ?_⟩
    · rintro ⟨parent, earlier, rfl, latest, derives⟩
      have plain := Text.point_notMem_of_isFieldName (marks.accepted_of_isLatest latest)
      exact ⟨parent, earlier, Source.Expr.eq_name_of_dotted? found plain, latest, derives⟩
    · rintro ⟨parent, earlier, rfl, latest, derives⟩
      exact ⟨parent, earlier, Option.some.inj found, latest, derives⟩

/-- What extraction finds among the bases of a class. -/
theorem any_isModelBase_iff (marks : Marks classes records) (cls : RecordClass) :
    cls.head.bases.any (RecordType.isModelBase records) ↔ cls.IsModel classes := by
  simp only [List.any_eq_true, marks.isModelBase_iff]
  constructor
  · rintro ⟨base, listed, named | ⟨parent, earlier, rfl, latest, derives⟩⟩
    · exact .base listed named
    · exact .parent listed latest derives
  · rintro (⟨listed, named⟩ | ⟨listed, latest, derives⟩)
    · exact ⟨_, listed, .inl named⟩
    · exact ⟨_, listed, .inr ⟨_, _, rfl, latest, derives⟩⟩

end Marks

/-! ## The search -/

/-- If nothing stops the search, it finds the record classes of further statements, given those
before them. -/
theorem RecordClass.Selects.recorded {earlier : List RecordClass}
    (selects : Selects earlier selected) (marks : Marks selected records)
    {statements : List Statement}
    (complete : (RecordType.ofStatements marker records statements).2 = none) :
    Selects ((ofStatements statements).reverse ++ earlier)
      (RecordClass.recorded marker records statements ++ selected) := by
  induction statements generalizing earlier selected records with
  | nil => exact selects
  | cons statement rest ih =>
    cases statement with
    | classDefinition head body =>
      have split : (ofStatements (.classDefinition head body :: rest)).reverse ++ earlier =
          (ofStatements rest).reverse ++ (⟨head, body⟩ :: earlier) := by
        simp [ofStatements, ofStatement?]
      -- The flags kept so far are right (`marks`), so extraction tests for record classes.
      have tested : (head.bases.any (RecordType.isModelBase records) ||
          head.decorators.any RecordType.decorates) ↔ IsRecordClass selected ⟨head, body⟩ := by
        rw [Bool.or_eq_true, or_comm]
        exact or_congr (any_decorates_iff ⟨head, body⟩) (marks.any_isModelBase_iff ⟨head, body⟩)
      rw [split, RecordClass.recorded]
      rw [RecordType.ofStatements] at complete
      by_cases isRecord : IsRecordClass selected ⟨head, body⟩
      · rw [if_pos (tested.2 isRecord)] at complete ⊢
        cases made : RecordType.ofClass marker records
          (head.bases.any (RecordType.isModelBase records)) head body with
        | error error =>
          rw [made] at complete
          cases complete
        | ok record =>
          rw [made] at complete
          obtain ⟨accepted, own, -, rfl⟩ := RecordType.ofClass_eq_ok made
          rw [List.append_assoc]
          exact ih (selects.record isRecord)
            (.cons accepted rfl (marks.any_isModelBase_iff ⟨head, body⟩) marks) complete
      · rw [if_neg (fun passed => isRecord (tested.1 passed))] at complete ⊢
        exact ih (selects.other isRecord) marks complete
    | annotated _ _ _ => exact ih selects marks complete
    | assigned _ _ => exact ih selects marks complete
    | other => exact ih selects marks complete

/-- Schemas have the names of the classes that they are extracted from. -/
theorem Extracts.names_schemas (extracts : Extracts marker classes records) :
    (records.reverse.map (·.schema)).map (·.name) = classes.reverse.map (·.name) := by
  rw [List.map_reverse, List.map_reverse, List.map_reverse, ← extracts.names, List.map_map]
  rfl

namespace Schema

/-- The schemas of a module come from its record classes, one from each. -/
theorem selects_of_ofModule {file text : String} {schemas : List Schema}
    (extracted : ofModule file marker text = .ok schemas) : ∃ statements selected records,
      Source.readModule text = .ok statements ∧
      RecordClass.Selects (RecordClass.ofStatements statements).reverse selected ∧
      Extracts marker selected records ∧ schemas = records.reverse.map (·.schema) := by
  obtain ⟨statements, found, rfl, complete⟩ := ofModule_eq_ok extracted
  have selects := RecordClass.Selects.nil.recorded .nil complete
  rw [List.append_nil, List.append_nil] at selects
  exact ⟨statements, _, _, found, selects, .ofModule marker statements, rfl⟩

/-- A module that is extracted has one schema for each of its record classes, in the order of their
declarations, and no others: a class that is not decorated and derives only from classes that do not
derive from the model class is left out. -/
theorem ofModule_selection {file text : String} {schemas : List Schema}
    (extracted : ofModule file marker text = .ok schemas) : ∃ statements selected records,
      Source.readModule text = .ok statements ∧
      (∀ others, RecordClass.Selects (RecordClass.ofStatements statements).reverse others ↔
        others = selected) ∧
      Extracts marker selected records ∧ schemas = records.reverse.map (·.schema) ∧
      schemas.map (·.name) = selected.reverse.map (·.name) ∧
      ∀ later cls earlier before, (RecordClass.ofStatements statements).reverse =
          later ++ cls :: earlier →
        RecordClass.Selects earlier before → ¬ cls.IsDataClass →
        (∀ base ∈ cls.head.bases, base.head? ≠ some "BaseModel") →
        (∀ parent rest, .name parent.name ∈ cls.head.bases →
          RecordClass.IsLatest before parent rest → ¬ parent.IsModel rest) →
        ∃ after, after.Sublist later ∧ selected = after ++ before := by
  obtain ⟨statements, selected, records, found, selects, extracts, rfl⟩ :=
    selects_of_ofModule extracted
  refine ⟨statements, selected, records, found, fun others => ⟨selects.unique, ?_⟩, extracts, rfl,
    extracts.names_schemas, ?_⟩
  · rintro rfl
    exact selects
  · intro later cls earlier before split selectsEarlier plain noModel noChain
    rw [split] at selects
    have noRecord := RecordClass.not_isRecordClass plain noModel noChain
    exact selects.of_append (selectsEarlier.other noRecord)

/-- Two classes of one name: `D` derives from the model class through the first of them, `E` derives
from the second one, which is a data class. -/
def shadowedModule : String :=
  "class A(BaseModel): pass\n@dataclass\nclass B: pass\nclass C(B): pass\nclass D(A): pass\n" ++
    "@dataclasses.dataclass(frozen=True)\nclass A: pass\nclass E(A): pass\n"

/-- Neither `C` nor `E` is a record class. -/
theorem ofModule_selection_shadowedModule : ∃ schemas statements selected,
    ofModule "models.py" "Optional" shadowedModule = .ok schemas ∧
    Source.readModule shadowedModule = .ok statements ∧
    RecordClass.Selects (RecordClass.ofStatements statements).reverse selected ∧
    (RecordClass.ofStatements statements).map (·.name) = ["A", "B", "C", "D", "A", "E"] ∧
    selected.reverse.map (·.name) = ["A", "B", "D", "A"] := by
  have found : (Source.readModule shadowedModule).toOption.map (fun statements =>
      let (schemas, stopped) := ofStatements "models.py" "Optional" statements
      ((RecordClass.ofStatements statements).map (·.name), schemas.map (·.name), stopped)) =
        some (["A", "B", "C", "D", "A", "E"], ["A", "B", "D", "A"], none) := by
    decide +kernel
  obtain ⟨statements, isRead, all⟩ := Option.map_eq_some_iff.1 found
  have read := eq_ok_of_toOption isRead
  cases scanned : ofStatements "models.py" "Optional" statements with
  | mk schemas stopped =>
    rw [scanned] at all
    obtain ⟨declared, names, rfl⟩ : _ ∧ _ ∧ _ := by simpa using all
    have extracted : ofModule "models.py" "Optional" shadowedModule = .ok schemas := by
      rw [ofModule, scanModule, read]
      dsimp only
      rw [scanned]
    obtain ⟨others, selected, records, readAs, unique, -, -, sameNames, -⟩ :=
      ofModule_selection extracted
    rw [read] at readAs
    cases readAs
    exact ⟨schemas, statements, selected, extracted, read, (unique selected).2 rfl, declared,
      by rw [← sameNames, names]⟩

end Schema

end Fieldwise
