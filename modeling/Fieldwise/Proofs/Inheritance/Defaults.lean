import Fieldwise.Proofs.Inheritance.Fields

/-! # Default instances of record classes

A class can be built without arguments if every declaration in effect, its own or an inherited one,
supplies a default; class variables are no parameters of the constructor. Extraction decides this
from the fields that it finds. It misses two kinds of parameters: those that are no fields, and
those whose default is passed by its keyword and is `...`, which means that there is none. Where
there is no parameter of these kinds, a class without a word about its default instance that is
found to have one can be built without arguments (`RecordType.constructible_iff`). -/

namespace Fieldwise

open Source (Expr Statement)

/-! ## Declarations and their defaults -/

def Source.Expr.isEllipsis : Expr → Bool
  | .constant .ellipsis => true
  | _ => false

theorem Source.Expr.isEllipsis_eq_false {expr : Expr} (other : expr ≠ .constant .ellipsis) :
    expr.isEllipsis = false := by
  unfold isEllipsis
  split
  · exact absurd rfl other
  · rfl

namespace Declaration

/-- The annotated name that a statement assigns or declares, whatever its annotation. -/
def ofAnnotation? : Statement → Option Declaration
  | .annotated (.name text) type value => some ⟨text, type, value⟩
  | _ => none

/-- The last segment of the name that an annotation is or applies. -/
def annotationHead? (declaration : Declaration) : Option String :=
  let outer := match declaration.type with
    | .subscript value _ => value
    | other => other
  outer.head?

def isClassVariable (declaration : Declaration) : Bool :=
  declaration.annotationHead? == some "ClassVar"

/-- Whether a declaration is one of a field: neither that of a class variable, nor of a parameter
that is for initialisation only, nor of the attribute about the default instance. -/
def isField (declaration : Declaration) : Bool :=
  !(declaration.name == RecordType.defaultAttribute) &&
    !(declaration.isClassVariable || declaration.annotationHead? == some "InitVar")

end Declaration

namespace RecordType

def describesField (function : Expr) : Bool :=
  (function.head?.map (fieldFunctions.contains ·)).getD false

def argument? (keywords : List (Option String × Expr)) (label : String) : Option Expr :=
  (keywords.find? (·.1 == some label)).map (·.2)

/-- Whether the value of a declaration supplies a default: a call that describes the field does so
with a factory, or with a default other than `...`, given by its keyword or as the first
argument. -/
def suppliesDefault : Option Expr → Bool
  | none => false
  | some (.call function arguments keywords) =>
    !describesField function || (argument? keywords "default_factory").isSome ||
      ((argument? keywords "default").or arguments.head?).any (!·.isEllipsis)
  | some _ => true

/-- Whether the value of a declaration is a call that describes the field and passes `...` by the
keyword of the default, so that there is none. -/
def deniesDefault : Option Expr → Bool
  | some (.call function _ keywords) =>
    describesField function && (argument? keywords "default_factory").isNone &&
      (argument? keywords "default").any (·.isEllipsis)
  | _ => false

theorem argument?_cons (keyword : Option String × Expr) (rest : List (Option String × Expr))
    (label : String) : argument? (keyword :: rest) label =
      if keyword.1 = some label then some keyword.2 else argument? rest label := by
  rw [argument?, List.find?_cons, argument?]
  by_cases same : keyword.1 = some label
  · rw [if_pos same, beq_iff_eq.2 same]
    rfl
  · rw [if_neg same, beq_eq_false_iff_ne.2 same]

theorem any_label_eq (first second : String) (keywords : List (Option String × Expr)) :
    keywords.any (fun (label, _) => label == some first || label == some second) =
      ((argument? keywords first).isSome || (argument? keywords second).isSome) := by
  induction keywords with
  | nil => rfl
  | cons keyword rest ih =>
    rw [List.any_cons, ih, argument?_cons, argument?_cons]
    by_cases isFirst : keyword.1 = some first
    · simp [isFirst]
    · by_cases isSecond : keyword.1 = some second <;> simp [isFirst, isSecond]

/-- A call that describes a field counts as a default if one of the two keywords is there, or else a
first argument that is not `...`. -/
theorem givesDefault_call (function : Expr) (arguments : List Expr)
    (keywords : List (Option String × Expr)) :
    givesDefault (some (.call function arguments keywords)) =
      (!describesField function || (argument? keywords "default").isSome ||
        (argument? keywords "default_factory").isSome ||
        arguments.head?.any (!·.isEllipsis)) := by
  change (if describesField function then keywords.any _ || _ else true) = _
  rw [any_label_eq]
  cases describesField function with
  | false => simp
  | true =>
    cases arguments with
    | nil => simp
    | cons first rest =>
      by_cases points : first = .constant .ellipsis
      · simp [points, Source.Expr.isEllipsis]
      · rw [List.head?_cons, Option.any_some, Source.Expr.isEllipsis_eq_false points]
        split <;> simp_all

/-- What counts as a default is a default that is supplied, or one that is denied. -/
theorem givesDefault_eq (value : Option Expr) :
    givesDefault value = (suppliesDefault value || deniesDefault value) := by
  cases value with
  | none => rfl
  | some value =>
    cases value with
    | call function arguments keywords =>
      rw [givesDefault_call, suppliesDefault, deniesDefault]
      cases argument? keywords "default_factory" with
      | some _ => simp
      | none =>
        cases argument? keywords "default" with
        | none => simp
        | some value => cases describesField function <;> cases value.isEllipsis <;> simp
    | _ => rfl

/-- A default that is denied is not supplied. -/
theorem deniesDefault_of_suppliesDefault {value : Option Expr} (supplied : suppliesDefault value) :
    deniesDefault value = false := by
  cases value with
  | none => rfl
  | some value =>
    cases value with
    | call function arguments keywords =>
      rw [suppliesDefault] at supplied
      rw [deniesDefault]
      cases factory : argument? keywords "default_factory" with
      | some _ => simp
      | none =>
        cases given : argument? keywords "default" with
        | none => simp
        | some value =>
          rw [factory, given] at supplied
          cases denied : value.isEllipsis <;> simp_all
    | _ => rfl

end RecordType

/-- A declaration is one of a field exactly if a class takes one from the statement. -/
theorem Declaration.ofStatement?_eq (statement : Statement) :
    Declaration.ofStatement? statement =
      (Declaration.ofAnnotation? statement).filter (·.isField) := by
  cases statement with
  | annotated target type value =>
    cases target with
    | name text =>
      have head : RecordType.isSkipped type =
          (((⟨text, type, value⟩ : Declaration).annotationHead?.map
            (RecordType.skippedHeads.contains ·)).getD false) :=
        rfl
      have skipped : RecordType.isSkipped type =
          ((⟨text, type, value⟩ : Declaration).isClassVariable ||
            (⟨text, type, value⟩ : Declaration).annotationHead? == some "InitVar") := by
        rw [head, isClassVariable, RecordType.skippedHeads]
        cases (⟨text, type, value⟩ : Declaration).annotationHead? with
        | none => rfl
        | some name =>
          rw [Option.map_some, Option.getD_some, List.contains_cons, List.contains_cons,
            List.contains_nil, Bool.or_false]
          rfl
      rw [ofStatement?, ofAnnotation?, Option.filter_some, isField, ← skipped]
      by_cases reserved : text = RecordType.defaultAttribute <;>
        cases RecordType.isSkipped type <;> simp [reserved]
    | _ => rfl
  | _ => rfl

/-! ## What is in effect for a class -/

/-- What is in effect for a class: the word about its default instance and the declaration of every
name, its own or inherited ones. -/
structure ClassView where
  name : String
  word : Option Bool
  declaration? : String → Option Declaration

namespace ClassView

variable (earlier : List ClassView)

/-- The earlier class that a base names, the latest one of its name. -/
def base? (base : Expr) : Option ClassView :=
  base.dotted?.bind fun text => earlier.find? (·.name == text)

/-- What is in effect for a class: what its body says last of a name or first of its default
instance, or else what is in effect for the first base that has it. -/
def ofClass (cls : RecordClass) : ClassView where
  name := cls.name
  word := (cls.body.findSome? RecordType.explicitFlag?).or
    (cls.head.bases.findSome? fun base => (base? earlier base).bind (·.word))
  declaration? wanted :=
    ((cls.body.filterMap Declaration.ofAnnotation?).reverse.find? (·.name == wanted)).or
      (cls.head.bases.findSome? fun base => (base? earlier base).bind (·.declaration? wanted))

/-- What is in effect for classes, the latest of which comes first. -/
def ofClasses : List RecordClass → List ClassView
  | [] => []
  | cls :: earlier => ofClass (ofClasses earlier) cls :: ofClasses earlier

/-- No parameter of the constructor is required: every declaration in effect, except those of class
variables, supplies a default. -/
def Constructible (view : ClassView) : Prop :=
  ∀ wanted declaration, view.declaration? wanted = some declaration →
    declaration.isClassVariable = false → RecordType.suppliesDefault declaration.value

end ClassView

variable {marker : String} {classes : List RecordClass} {records : List RecordType}

/-! ## Fields show what is in effect -/

/-- A field shows the declaration that is in effect for its name, if that is one of a field; there
is no field where nothing is declared. -/
inductive Shows (marker : String) : Option Declaration → Option RecordField → Prop
  | nothing : Shows marker none none
  | hidden {declaration : Declaration} (noField : declaration.isField = false)
      (found : Option RecordField) : Shows marker (some declaration) found
  | field {declaration : Declaration} {field : RecordField} (isField : declaration.isField)
      (gives : declaration.Gives marker field) : Shows marker (some declaration) (some field)

theorem findSome?_cons_eq_or {α β : Type} (find : α → Option β) (item : α) (rest : List α) :
    (item :: rest).findSome? find = (find item).or (rest.findSome? find) := by
  rw [List.findSome?_cons]
  cases find item <;> rfl

namespace Shows

theorem or {first second : Option Declaration} {first' second' : Option RecordField}
    (left : Shows marker first first') (right : Shows marker second second') :
    Shows marker (first.or second) (first'.or second') := by
  cases left with
  | nothing => exact right
  | hidden noField found => exact .hidden noField _
  | field isField gives => exact .field isField gives

/-- What is found first along a list is shown if it is at each item. -/
theorem findSome? {α : Type} {items : List α} {find : α → Option Declaration}
    {find' : α → Option RecordField} (each : ∀ item ∈ items, Shows marker (find item) (find' item)) :
    Shows marker (items.findSome? find) (items.findSome? find') := by
  induction items with
  | nil => exact .nothing
  | cons item rest ih =>
    obtain ⟨first, others⟩ := List.forall_mem_cons.1 each
    rw [findSome?_cons_eq_or, findSome?_cons_eq_or]
    exact first.or (ih others)

/-- The last field of a name shows the last declaration of the name. -/
theorem ofDeclarations {declarations : List Declaration} {own : List RecordField}
    (given : List.Forall₂ (Declaration.Gives marker) (declarations.filter (·.isField)) own)
    (wanted : String) :
    Shows marker (declarations.reverse.find? (·.name == wanted))
      (own.reverse.find? (·.field.name == wanted)) := by
  induction declarations generalizing own with
  | nil =>
    cases given
    exact .nothing
  | cons declaration rest ih =>
    rw [List.reverse_cons, List.find?_append, find?_key_cons, List.find?_nil]
    cases isField : declaration.isField with
    | false =>
      rw [List.filter_cons_of_neg (by simp [isField])] at given
      rw [← Option.or_none (o := own.reverse.find? _)]
      refine (ih given).or ?_
      split
      · exact .hidden isField none
      · exact .nothing
    | true =>
      rw [List.filter_cons_of_pos isField] at given
      cases given with
      | @cons _ field _ fields gives others =>
        rw [List.reverse_cons, List.find?_append, find?_key_cons, List.find?_nil, ← gives.name]
        refine (ih others).or ?_
        split
        · exact .field isField gives
        · exact .nothing

end Shows

namespace ClassView

/-- What is in effect for a class and its record type: the same word, and fields that show the
declarations. -/
structure Describes (marker : String) (view : ClassView) (record : RecordType) : Prop where
  name : view.name = record.name
  word : view.word = record.explicit
  shows : ∀ wanted, Shows marker (view.declaration? wanted)
    (record.fields.find? (·.field.name == wanted))

/-- A base names classes that go together. -/
theorem rel_base? {views : List ClassView}
    (described : List.Forall₂ (Describes marker) views records) (base : Expr) :
    Option.Rel (Describes marker) (base? views base) (RecordType.base? records base) := by
  rw [base?, RecordType.base?]
  cases base.dotted? with
  | none => exact .none
  | some text => exact find?_key_related (fun _ _ describes => describes.name) described text

theorem describes_ofClass {views : List ClassView} {cls : RecordClass} {record : RecordType}
    (extracts : Extracts marker classes records)
    (described : List.Forall₂ (Describes marker) views records) {isModel : Bool}
    (made : RecordType.ofClass marker records isModel cls.head cls.body = .ok record) :
    Describes marker (ofClass views cls) record := by
  obtain ⟨-, own, declared, rfl⟩ := RecordType.ofClass_eq_ok made
  refine ⟨rfl, ?_, fun wanted => ?_⟩
  · have words (base : Expr) : (base? views base).bind (·.word) =
        (RecordType.base? records base).bind (·.explicit) := by
      have related := rel_base? described base
      generalize base? views base = view at related ⊢
      generalize RecordType.base? records base = record at related ⊢
      cases related with
      | none => rfl
      | some describes => exact describes.word
    rw [ofClass, RecordType.inherited]
    dsimp only
    rw [findSome?_filterMap, funext words]
  · have given : List.Forall₂ (Declaration.Gives marker)
        ((cls.body.filterMap Declaration.ofAnnotation?).filter (·.isField)) own := by
      have kept : (cls.body.filterMap Declaration.ofAnnotation?).filter (·.isField) =
          cls.body.filterMap Declaration.ofStatement? := by
        rw [List.filter_filterMap, funext Declaration.ofStatement?_eq]
      rw [kept]
      exact gives_ownFields declared
    rw [ofClass, RecordType.overlay_eq, find?_overlayBy, extracts.find?_inherited]
    refine (Shows.ofDeclarations given wanted).or (Shows.findSome? fun base _ => ?_)
    have related := rel_base? described base
    generalize base? views base = view at related ⊢
    generalize RecordType.base? records base = record at related ⊢
    cases related with
    | none => exact .nothing
    | some describes => exact describes.shows wanted

theorem describes_ofClasses (extracts : Extracts marker classes records) :
    List.Forall₂ (Describes marker) (ofClasses classes) records := by
  induction extracts with
  | nil => exact .nil
  | cons isModel made earlier ih => exact .cons (describes_ofClass earlier ih made) ih

/-- If a class is found to have a default instance without a word about it, every declaration in
effect that is one of a field supplies a default, unless it denies one. -/
theorem Describes.suppliesDefault {view : ClassView} {record : RecordType}
    (describes : Describes marker view record) (noWord : view.word = none)
    (flagged : record.schema.defaultConstructible) {wanted : String} {declaration : Declaration}
    (inEffect : view.declaration? wanted = some declaration) (isField : declaration.isField)
    (kept : RecordType.deniesDefault declaration.value = false) :
    RecordType.suppliesDefault declaration.value := by
  have shown := describes.shows wanted
  rw [inEffect] at shown
  cases found : record.fields.find? (·.field.name == wanted) with
  | none =>
    rw [found] at shown
    cases shown with
    | hidden noField _ =>
      rw [isField] at noField
      cases noField
  | some field =>
    rw [found] at shown
    cases shown with
    | hidden noField _ =>
      rw [isField] at noField
      cases noField
    | field _ gives =>
      have all : record.fields.all (·.hasDefault) := by
        rw [RecordType.schema, ← describes.word, noWord] at flagged
        exact flagged
      have hasDefault := List.all_eq_true.1 all field (List.mem_of_find?_eq_some found)
      rwa [gives.hasDefault, RecordType.givesDefault_eq, kept, Bool.or_false] at hasDefault

end ClassView

/-- In every module, if a class without a word about its default instance is found to have one,
every declaration of a field that is in effect supplies a default, unless it denies one. So the
class can be built without arguments exactly if no declaration in effect denies a default, and those
that are no fields of the schema supply one. -/
theorem RecordType.constructible_iff (marker : String) (statements : List Statement) :
    List.Forall₂
      (fun (view : ClassView) (record : RecordType) => view.name = record.name ∧
        (view.word = none → record.schema.defaultConstructible →
          (∀ wanted declaration, view.declaration? wanted = some declaration →
            declaration.isField → deniesDefault declaration.value = false →
              suppliesDefault declaration.value) ∧
          (view.Constructible ↔
            ∀ wanted declaration, view.declaration? wanted = some declaration →
              declaration.isClassVariable = false →
                if declaration.isField then deniesDefault declaration.value = false
                else suppliesDefault declaration.value)))
      (ClassView.ofClasses (RecordClass.recorded marker [] statements))
      (ofStatements marker [] statements).1 := by
  have extracts := Extracts.ofModule marker statements
  refine (ClassView.describes_ofClasses extracts).imp fun view record describes => ?_
  refine ⟨describes.name, fun noWord flagged => ⟨?_, ?_, ?_⟩⟩
  · exact fun wanted declaration => describes.suppliesDefault noWord flagged
  · intro constructible wanted declaration inEffect parameter
    have supplied := constructible wanted declaration inEffect parameter
    split
    · exact deniesDefault_of_suppliesDefault supplied
    · exact supplied
  · intro each wanted declaration inEffect parameter
    have one := each wanted declaration inEffect parameter
    split at one
    · exact describes.suppliesDefault noWord flagged inEffect ‹_› one
    · exact one

/-- The class `class A(BaseModel): x: int = Field(default=...)`. -/
def deniedClass : RecordClass :=
  ⟨⟨1, "A", [], [.name "BaseModel"]⟩, [.annotated (.name "x") (.name "int")
    (some (.call (.name "Field") [] [(some "default", .constant .ellipsis)]))]⟩

/-- The class `@dataclass class B: y: InitVar[int]`. -/
def initialisedClass : RecordClass :=
  ⟨⟨4, "B", [.name "dataclass"], []⟩,
    [.annotated (.name "y") (.subscript (.name "InitVar") (.name "int")) none]⟩

def requiringModule : List Statement :=
  [.classDefinition deniedClass.head deniedClass.body,
    .classDefinition initialisedClass.head initialisedClass.body]

/-- Two classes that are found to have default instances but require an argument: one passes `...`
by the keyword of the default, the other one has a parameter that is no field. -/
theorem RecordType.not_constructible :
    (Schema.ofStatements "models.py" "Optional" requiringModule).1 =
      [⟨"A", [⟨"x", .bare "int"⟩], true⟩, ⟨"B", [], true⟩] ∧
    ∀ view ∈ ClassView.ofClasses (RecordClass.recorded "Optional" [] requiringModule),
      view.word = none ∧ ¬ view.Constructible := by
  have classes : RecordClass.recorded "Optional" [] requiringModule =
      [initialisedClass, deniedClass] := rfl
  refine ⟨by decide +kernel, ?_⟩
  rw [classes]
  refine List.forall_mem_cons.2 ⟨⟨rfl, fun constructible => ?_⟩,
    List.forall_mem_singleton.2 ⟨rfl, fun constructible => ?_⟩⟩
  · have supplied := constructible "y" _ rfl (by decide)
    exact absurd supplied (by decide)
  · have supplied := constructible "x" _ rfl (by decide)
    exact absurd supplied (by decide)

end Fieldwise
