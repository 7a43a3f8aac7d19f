import Fieldwise.Proofs.Type.Declaration

/-! # Annotations without a type

Taking the type from an annotation writes out some of its parts: its literals, the values of a
`Literal`, the metadata of an `Annotated` and everything that is no type. A part may have no text,
and an `Annotated` may lack the type that it describes. The annotation has a type unless one of its
parts has such a fault; the first one is the error (`Expr.failure?_declaredType`). An argument is
missing exactly if `Annotated[()]` stands somewhere in the place of a type
(`Expr.missing_mem_parts_iff`). -/

namespace Fieldwise

open TypeExpr (lastSegment)

namespace Source

/-- A part of an annotation that is written out, or the missing argument of an `Annotated`. -/
inductive AnnotationPart where
  | literal (value : Constant)
  | verbatim (expr : Expr)
  | missing

def AnnotationPart.fault? : AnnotationPart → Option DeclaredError
  | literal value => (failure? value.show).map .unprintable
  | verbatim expr => (failure? expr.text).map .unprintable
  | missing => some .noArgument

theorem AnnotationPart.fault?_eq_noArgument_iff (part : AnnotationPart) :
    part.fault? = some .noArgument ↔ part = missing := by
  cases part with
  | missing => exact iff_of_true rfl rfl
  | literal _ => simp [fault?]
  | verbatim _ => simp [fault?]

namespace Expr

mutual

/-- The parts of an annotation, in reading order. -/
def parts : Expr → List AnnotationPart
  | binary .bitOr left right => parts left ++ parts right
  | constant value => [.literal value]
  | name _ => []
  | member value label =>
    match dotted? value with
    | some _ => []
    | none => [.verbatim (member value label)]
  | subscript value (tuple items) =>
    match dotted? value with
    | none => [.verbatim (subscript value (tuple items))]
    | some outer =>
      if lastSegment outer = valueHead then items.map .verbatim
      else if lastSegment outer = metadataHead then describedParts items
      else argumentParts items
  | subscript value index =>
    match dotted? value with
    | none => [.verbatim (subscript value index)]
    | some outer => if lastSegment outer = valueHead then [.verbatim index] else parts index
  | expr => [.verbatim expr]

def argumentParts : List Expr → List AnnotationPart
  | [] => []
  | first :: rest => parts first ++ argumentParts rest

/-- The parts of an annotation and the values that describe it. -/
def describedParts : List Expr → List AnnotationPart
  | [] => [.missing]
  | first :: rest => parts first ++ rest.map .verbatim

end

/-! ## How an annotation is taken apart -/

theorem head?_eq_some {base : Expr} {outer : String} (found : base.dotted? = some outer) :
    base.head? = some (lastSegment outer) := by
  rw [head?, found, Option.map_some]

/-- The parts of a subscript depend on its head. -/
theorem parts_subscript {base : Expr} {head : String} (isHead : base.head? = some head)
    (index : Expr) : parts (.subscript base index) =
      if head = valueHead then index.arguments.map .verbatim
      else if head = metadataHead then describedParts index.arguments
      else argumentParts index.arguments := by
  obtain ⟨outer, found, rfl⟩ := Option.map_eq_some_iff.1 isHead
  by_cases isTuple : ∃ items, index = .tuple items
  · obtain ⟨items, rfl⟩ := isTuple
    rw [parts, found]
    rfl
  · have noTuple : ∀ items, index ≠ .tuple items := fun items same => isTuple ⟨items, same⟩
    rw [parts, found, arguments_eq_singleton noTuple]
    · simp [describedParts, argumentParts]
    · exact noTuple

/-- An expression that is no type and stands for its own text. -/
structure IsVerbatim (expr : Expr) : Prop where
  parts : expr.parts = [.verbatim expr]
  memberTypes : ∀ marker, expr.memberTypes marker = do return [← opaqueType expr]

theorem isVerbatim_member {value : Expr} (label : String) (noName : dotted? value = none) :
    IsVerbatim (.member value label) := by
  refine ⟨?_, fun marker => ?_⟩
  · rw [parts, noName]
  · rw [memberTypes, noName]

theorem isVerbatim_subscript {base : Expr} (index : Expr) (noName : dotted? base = none) :
    IsVerbatim (.subscript base index) := by
  by_cases isTuple : ∃ items, index = .tuple items
  · obtain ⟨items, rfl⟩ := isTuple
    refine ⟨?_, fun marker => ?_⟩
    · rw [parts, noName]
    · rw [memberTypes, noName]
  · have noTuple : ∀ items, index ≠ .tuple items := fun items same => isTuple ⟨items, same⟩
    refine ⟨?_, fun marker => ?_⟩
    · rw [parts, noName]
      exact noTuple
    · rw [memberTypes, noName]
      exact noTuple

theorem sizeOf_lt_of_mem_arguments {index item : Expr} (member : item ∈ index.arguments)
    (base : Expr) : sizeOf item < sizeOf (Expr.subscript base index) := by
  rw [Expr.subscript.sizeOf_spec]
  by_cases isTuple : ∃ items, index = .tuple items
  · obtain ⟨items, rfl⟩ := isTuple
    have inside : sizeOf item < sizeOf items := List.sizeOf_lt_of_mem member
    rw [Expr.tuple.sizeOf_spec]
    omega
  · rw [arguments_eq_singleton fun items same => isTuple ⟨items, same⟩, List.mem_singleton]
      at member
    rw [member]
    omega

/-- An annotation is taken apart at alternatives and at the arguments of names. What is no type is
left as it stands. -/
theorem induction_on_parts {motive : Expr → Prop}
    (alternatives : ∀ left right, motive left → motive right → motive (.binary .bitOr left right))
    (literal : ∀ value, motive (.constant value)) (name : ∀ text, motive (.name text))
    (chain : ∀ value label base, dotted? value = some base → motive (.member value label))
    (applied : ∀ base index outer, dotted? base = some outer →
      (∀ item ∈ index.arguments, motive item) → motive (.subscript base index))
    (verbatim : ∀ expr, IsVerbatim expr → motive expr) (expr : Expr) : motive expr := by
  induction size : sizeOf expr using Nat.strong_induction_on generalizing expr with
  | _ size ih =>
    subst size
    cases expr with
    | binary operator left right =>
      cases operator with
      | bitOr =>
        have bound := Expr.binary.sizeOf_spec BinaryOperator.bitOr left right
        exact alternatives left right (ih _ (by omega) left rfl) (ih _ (by omega) right rfl)
      | _ => exact verbatim _ ⟨rfl, fun _ => rfl⟩
    | constant value => exact literal value
    | name text => exact name text
    | member value label =>
      cases found : dotted? value with
      | some base => exact chain value label base found
      | none => exact verbatim _ (isVerbatim_member label found)
    | subscript base index =>
      cases found : dotted? base with
      | some outer =>
        exact applied base index outer found fun item member =>
          ih _ (sizeOf_lt_of_mem_arguments member base) item rfl
      | none => exact verbatim _ (isVerbatim_subscript index found)
    | _ => exact verbatim _ ⟨rfl, fun _ => rfl⟩

variable {marker : String}

/-! ## The first fault -/

theorem failure?_constantType (value : Constant) :
    failure? (constantType marker value) = AnnotationPart.fault? (.literal value) := by
  rw [constantType.eq_def, AnnotationPart.fault?]
  split
  · rfl
  · rfl
  · cases Constant.show value <;> rfl

theorem failure?_opaqueType (expr : Expr) :
    failure? (opaqueType expr) = AnnotationPart.fault? (.verbatim expr) := by
  rw [opaqueType, AnnotationPart.fault?]
  cases expr.text <;> rfl

theorem failure?_opaqueTypes (items : List Expr) : failure? (opaqueTypes items) =
    (items.map AnnotationPart.verbatim).findSome? AnnotationPart.fault? := by
  induction items with
  | nil => rfl
  | cons first rest ih =>
    rw [opaqueTypes, failure?_bind fun _ => (failure?_map _ _).trans ih, failure?_opaqueType,
      List.map_cons, List.findSome?_cons]
    cases AnnotationPart.fault? (.verbatim first) <;> rfl

theorem failure?_alternatives (visible : Text.isBlankText marker = false)
    (types : List TypeExpr) : failure? (alternatives marker types) = none := by
  rw [alternatives_eq visible]
  rfl

/-- Joining alternatives never fails, so what is done next fails as after the alternatives. -/
theorem failure?_declared_bind (visible : Text.isBlankText marker = false) (expr : Expr)
    {α : Type} {next : TypeExpr → Except DeclaredError α} {fault : Option DeclaredError}
    (second : ∀ type, failure? (next type) = fault) :
    failure? (memberTypes marker expr >>= fun types => alternatives marker types >>= next) =
      (failure? (memberTypes marker expr)).or fault := by
  refine failure?_bind fun types => ?_
  rw [failure?_bind second, failure?_alternatives visible, Option.none_or]

/-- Taking the types of several annotations fails with the first fault of their parts. -/
theorem failure?_declaredTypes (visible : Text.isBlankText marker = false) {items : List Expr}
    (each : ∀ item ∈ items,
      failure? (memberTypes marker item) = item.parts.findSome? AnnotationPart.fault?) :
    failure? (declaredTypes marker items) =
      (argumentParts items).findSome? AnnotationPart.fault? := by
  induction items with
  | nil => rfl
  | cons first rest ih =>
    obtain ⟨firstFault, others⟩ := List.forall_mem_cons.1 each
    rw [declaredTypes, argumentParts, List.findSome?_append, ← firstFault, ← ih others]
    exact failure?_declared_bind visible first fun _ => failure?_map _ _

theorem failure?_describedTypes (visible : Text.isBlankText marker = false) {items : List Expr}
    (each : ∀ item ∈ items,
      failure? (memberTypes marker item) = item.parts.findSome? AnnotationPart.fault?) :
    failure? (describedTypes marker items) =
      (describedParts items).findSome? AnnotationPart.fault? := by
  cases items with
  | nil => rfl
  | cons first rest =>
    rw [describedTypes, describedParts, List.findSome?_append,
      ← each first List.mem_cons_self, ← failure?_opaqueTypes]
    exact failure?_declared_bind visible first fun _ => failure?_map _ _

/-- Taking the types from an annotation fails with the first fault of its parts. -/
theorem failure?_memberTypes (visible : Text.isBlankText marker = false) (expr : Expr) :
    failure? (memberTypes marker expr) = expr.parts.findSome? AnnotationPart.fault? := by
  induction expr using induction_on_parts with
  | alternatives left right first second =>
    rw [memberTypes, parts, List.findSome?_append, ← first, ← second]
    exact failure?_bind fun _ => failure?_map _ _
  | literal value =>
    rw [memberTypes, parts, List.findSome?_singleton, ← failure?_constantType, failure?_map]
  | name text =>
    rw [memberTypes, parts]
    rfl
  | chain value label base found =>
    simp only [memberTypes, parts, found]
    rfl
  | applied base index outer found each =>
    have fails : failure? (memberTypes marker (.subscript base index)) =
        failure? (argumentTypes marker outer index.arguments) := by
      rw [memberTypes_subscript found]
      exact failure?_map (argumentTypes marker outer index.arguments) _
    rw [fails, parts_subscript (head?_eq_some found), argumentTypes]
    split
    · exact failure?_opaqueTypes _
    · split
      · exact failure?_describedTypes visible each
      · exact failure?_declaredTypes visible each
  | verbatim expr isVerbatim =>
    rw [isVerbatim.memberTypes, isVerbatim.parts, failure?_map, failure?_opaqueType,
      List.findSome?_singleton]

/-- An annotation has a type unless one of its parts has a fault; the first fault is the error. -/
theorem failure?_declaredType (visible : Text.isBlankText marker = false) (expr : Expr) :
    failure? (declaredType marker expr) = expr.parts.findSome? AnnotationPart.fault? := by
  rw [declaredType, failure?_bind (failure?_alternatives visible), Option.or_none,
    failure?_memberTypes visible]

/-! ## Missing arguments -/

/-- An annotation that has an `Annotated` without arguments in the place of a type. -/
inductive LacksArgument : Expr → Prop
  | here {base index : Expr} (head : base.head? = some metadataHead) (none : index.arguments = []) :
      LacksArgument (.subscript base index)
  | left {first last : Expr} (lacks : LacksArgument first) :
      LacksArgument (.binary .bitOr first last)
  | right {first last : Expr} (lacks : LacksArgument last) :
      LacksArgument (.binary .bitOr first last)
  | described {base index first : Expr} {rest : List Expr} (head : base.head? = some metadataHead)
      (split : index.arguments = first :: rest) (lacks : LacksArgument first) :
      LacksArgument (.subscript base index)
  | argument {base index item : Expr} {head : String} (isHead : base.head? = some head)
      (noValues : head ≠ valueHead) (noMetadata : head ≠ metadataHead)
      (member : item ∈ index.arguments) (lacks : LacksArgument item) :
      LacksArgument (.subscript base index)

theorem argumentParts_eq_flatMap (items : List Expr) :
    argumentParts items = items.flatMap parts := by
  induction items with
  | nil => rfl
  | cons first rest ih => rw [argumentParts, List.flatMap_cons, ih]

/-- An `Annotated` lacks an argument itself, or the type that it describes does. -/
theorem lacksArgument_of_described {base index : Expr} (head : base.head? = some metadataHead)
    (each : ∀ item ∈ index.arguments, .missing ∈ item.parts → item.LacksArgument)
    (missing : .missing ∈ describedParts index.arguments) :
    (Expr.subscript base index).LacksArgument := by
  cases split : index.arguments with
  | nil => exact .here head split
  | cons first rest =>
    rw [split] at each missing
    rw [describedParts, List.mem_append] at missing
    rcases missing with inside | inside
    · exact .described head split (each first List.mem_cons_self inside)
    · simp at inside

/-- An argument is missing exactly if an `Annotated` without arguments is in the place of a type. -/
theorem missing_mem_parts_iff (expr : Expr) : .missing ∈ expr.parts ↔ expr.LacksArgument := by
  constructor
  · intro missing
    induction expr using induction_on_parts with
    | alternatives left right first second =>
      rw [parts] at missing
      exact (List.mem_append.1 missing).elim (.left ∘ first) (.right ∘ second)
    | applied base index outer found each =>
      have isHead := head?_eq_some found
      rw [parts_subscript isHead] at missing
      split at missing
      · simp at missing
      · rename_i noValues
        split at missing
        · rename_i metadata
          exact lacksArgument_of_described (metadata ▸ isHead) each missing
        · rename_i noMetadata
          rw [argumentParts_eq_flatMap] at missing
          obtain ⟨item, member, inside⟩ := List.mem_flatMap.1 missing
          exact .argument isHead noValues noMetadata member (each item member inside)
    | chain value label base found => simp [parts, found] at missing
    | verbatim expr isVerbatim => simp [isVerbatim.parts] at missing
    | literal _ => simp [parts] at missing
    | name _ => simp [parts] at missing
  · intro lacks
    induction lacks with
    | here head none =>
      rw [parts_subscript head, none]
      simp [describedParts, show metadataHead ≠ valueHead by decide]
    | left _ ih =>
      rw [parts]
      exact List.mem_append_left _ ih
    | right _ ih =>
      rw [parts]
      exact List.mem_append_right _ ih
    | described head split _ ih =>
      rw [parts_subscript head, split, if_neg (by decide), if_pos rfl, describedParts]
      exact List.mem_append_left _ ih
    | argument isHead noValues noMetadata member _ ih =>
      rw [parts_subscript isHead, if_neg noValues, if_neg noMetadata, argumentParts_eq_flatMap]
      exact List.mem_flatMap.2 ⟨_, member, ih⟩

end Expr

end Source

end Fieldwise
