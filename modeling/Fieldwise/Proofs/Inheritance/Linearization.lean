import Fieldwise.Proofs.Inheritance.Merge
import Fieldwise.Proofs.Inheritance.Tables
import Fieldwise.Proofs.RelatedLists

/-! # Linearised ancestors of record classes

The classes of a module are known with the latest first. The ancestors of a class are classes of the
module, which are known by their names, and imported classes, of which nothing is known but that
they descend from the root. `linearization?` puts them into the method resolution order, and
`completeTable` lays the complete tables of the ancestors over each other along the reversed order,
and the declarations of the class itself over them.

A complete table has all that the tables of the ancestors have (`isSome_declaration?`). So it does
not matter whether the ancestors are searched along the whole linearisation or only the parents in
their order (`findSome?_parents`). -/

namespace Fieldwise

open Source (Expr Statement ClassHead)

/-- What a class body declares of a field. -/
structure Declaration where
  name : String
  type : Expr
  value : Option Expr

/-- The declaration that a statement makes: an annotated name, unless its annotation is a `ClassVar`
or an `InitVar`, or it is the attribute about the default instance. -/
def Declaration.ofStatement? : Statement → Option Declaration
  | .annotated (.name text) type value =>
    if text = RecordType.defaultAttribute || RecordType.isSkipped type then none
    else some ⟨text, type, value⟩
  | _ => none

/-- A class: one of the module, by its name, or an imported one. -/
inductive Ancestor where
  | declared (name : String)
  | imported (name : String)
  deriving DecidableEq, Repr

/-- The class that every class descends from. -/
def Ancestor.root : Ancestor :=
  .imported "object"

/-- An imported class before the root. -/
def Ancestor.importedOrder (name : String) : List Ancestor :=
  if Ancestor.imported name = root then [root] else [.imported name, root]

structure RecordClass where
  head : ClassHead
  body : List Statement

namespace RecordClass

def name (cls : RecordClass) : String :=
  cls.head.name

def declarations (cls : RecordClass) : List Declaration :=
  cls.body.filterMap Declaration.ofStatement?

/-- The class that a base is. If it is not the name of an earlier record class, it is an imported
class; `imported` tells which one. -/
def ancestor (imported : Expr → String) (earlier : List RecordClass) (base : Expr) : Ancestor :=
  match base.dotted?.filter (· ∈ earlier.map name) with
  | some text => .declared text
  | none => .imported (imported base)

/-- The parents of a class: its bases, or the root if it has none. -/
def parents (imported : Expr → String) (earlier : List RecordClass) (cls : RecordClass) :
    List Ancestor :=
  if cls.head.bases.isEmpty then [.root] else cls.head.bases.map (ancestor imported earlier)

end RecordClass

/-- The linearisation of a class, if there is one: the class, then the merge of the linearisations
of its parents and of the parents themselves. -/
def linearization? (imported : Expr → String) :
    List RecordClass → Ancestor → Option (List Ancestor)
  | [], .declared _ => none
  | [], .imported name => some (Ancestor.importedOrder name)
  | cls :: earlier, ancestor =>
    if ancestor = .declared cls.name then do
      let parents := cls.parents imported earlier
      let orders ← parents.mapM (linearization? imported earlier)
      let merged ← Precedence.merge? (orders ++ [parents])
      return ancestor :: merged
    else linearization? imported earlier ancestor

/-- The complete table of a class: the complete tables of its ancestors laid over each other along
the reversed linearisation, and over them the declarations of the class. -/
def completeTable (imported : Expr → String) :
    List RecordClass → Ancestor → List Declaration
  | [], _ => []
  | cls :: earlier, ancestor =>
    if ancestor = .declared cls.name then
      let ancestors := ((linearization? imported (cls :: earlier) ancestor).getD []).tail
      overlayBy (·.name)
        (overlays (·.name) (ancestors.reverse.map (completeTable imported earlier)))
        cls.declarations
    else completeTable imported earlier ancestor

def declaration? (imported : Expr → String) (classes : List RecordClass) (wanted : String)
    (ancestor : Ancestor) : Option Declaration :=
  (completeTable imported classes ancestor).find? (·.name == wanted)

variable {imported : Expr → String} {cls : RecordClass} {classes earlier : List RecordClass}
  {ancestor : Ancestor} {order : List Ancestor} {wanted : String}

/-! ## Linearisations -/

theorem linearization?_cons_of_ne (apart : ancestor ≠ .declared cls.name) :
    linearization? imported (cls :: earlier) ancestor =
      linearization? imported earlier ancestor := by
  rw [linearization?, if_neg apart]

/-- What the linearisations of the parents of a class and the parents are merged into. -/
structure MergedParents (imported : Expr → String) (earlier : List RecordClass)
    (parents : List Ancestor) (orders : List (List Ancestor)) (merged : List Ancestor) : Prop where
  each : List.Forall₂ (fun parent order => linearization? imported earlier parent = some order)
    parents orders
  isMerge : Precedence.merge? (orders ++ [parents]) = some merged

/-- The linearisation of a class is the class before the merge. -/
theorem linearization?_self
    (found : linearization? imported (cls :: earlier) (.declared cls.name) = some order) :
    ∃ orders merged, order = .declared cls.name :: merged ∧
      MergedParents imported earlier (cls.parents imported earlier) orders merged := by
  rw [linearization?, if_pos rfl] at found
  obtain ⟨orders, each, found⟩ := Option.bind_eq_some_iff.1 found
  obtain ⟨merged, isMerged, same⟩ := Option.bind_eq_some_iff.1 found
  cases same
  exact ⟨orders, merged, rfl, ⟨forall₂_of_mapM each, isMerged⟩⟩

/-- A linearisation begins with the class itself. -/
theorem exists_of_linearization? (found : linearization? imported classes ancestor = some order) :
    ∃ rest, order = ancestor :: rest := by
  induction classes with
  | nil =>
    cases ancestor with
    | declared name => cases found
    | imported name =>
      cases found
      rw [Ancestor.importedOrder]
      split
      · rename_i isRoot
        exact ⟨[], by rw [isRoot]⟩
      · exact ⟨_, rfl⟩
  | cons cls earlier ih =>
    by_cases isSelf : ancestor = .declared cls.name
    · subst isSelf
      obtain ⟨orders, merged, rfl, -⟩ := linearization?_self found
      exact ⟨merged, rfl⟩
    · rw [linearization?_cons_of_ne isSelf] at found
      exact ih found

namespace MergedParents

variable {parents merged : List Ancestor} {orders : List (List Ancestor)}

/-- Every ancestor that is merged comes from the linearisation of a parent, which is kept. -/
theorem exists_parent (mergedParents : MergedParents imported earlier parents orders merged)
    {item : Ancestor} (member : item ∈ merged) : ∃ parent ∈ parents, ∃ order,
      linearization? imported earlier parent = some order ∧ order.Sublist merged ∧
        item ∈ order := by
  obtain ⟨each, isMerge⟩ := mergedParents
  obtain ⟨order, orderIn, inside⟩ := Precedence.exists_of_mem_merge? isMerge member
  rcases List.mem_append.1 orderIn with orderIn | orderIn
  · obtain ⟨parent, parentIn, found⟩ := exists_of_forall₂ each order orderIn
    exact ⟨parent, parentIn, order, found,
      Precedence.sublist_of_merge? isMerge (List.mem_append_left _ orderIn), inside⟩
  · obtain rfl := List.mem_singleton.1 orderIn
    obtain ⟨order, orderIn, found⟩ := exists_of_forall₂ each.flip item inside
    obtain ⟨rest, rfl⟩ := exists_of_linearization? found
    exact ⟨item, inside, _, found,
      Precedence.sublist_of_merge? isMerge (List.mem_append_left _ orderIn), List.mem_cons_self⟩

end MergedParents

/-- Classes of the module that are in a linearisation are classes that it is computed from. -/
theorem known_of_linearization? (found : linearization? imported classes ancestor = some order)
    {name : String} (member : .declared name ∈ order) : name ∈ classes.map (·.name) := by
  induction classes generalizing ancestor order with
  | nil =>
    cases ancestor with
    | declared _ => cases found
    | imported _ =>
      cases found
      rw [Ancestor.importedOrder] at member
      split at member <;> simp [Ancestor.root] at member
  | cons cls earlier ih =>
    by_cases isSelf : ancestor = .declared cls.name
    · subst isSelf
      obtain ⟨orders, merged, rfl, mergedParents⟩ := linearization?_self found
      rcases List.mem_cons.1 member with same | inside
      · cases same
        exact List.mem_cons_self
      · obtain ⟨parent, -, order, foundParent, -, inOrder⟩ := mergedParents.exists_parent inside
        exact List.mem_cons_of_mem _ (ih foundParent inOrder)
    · rw [linearization?_cons_of_ne isSelf] at found
      exact List.mem_cons_of_mem _ (ih found member)

/-- The ancestors of an earlier class are none of the later ones. -/
theorem ne_of_linearization? (distinct : ((cls :: earlier).map (·.name)).Nodup)
    (found : linearization? imported earlier ancestor = some order) {item : Ancestor}
    (member : item ∈ order) : item ≠ .declared cls.name := by
  rintro rfl
  exact (List.nodup_cons.1 distinct).1 (known_of_linearization? found member)

/-! ## Complete tables -/

theorem declaration?_cons_of_ne (apart : ancestor ≠ .declared cls.name) :
    declaration? imported (cls :: earlier) wanted ancestor =
      declaration? imported earlier wanted ancestor := by
  rw [declaration?, completeTable, if_neg apart, declaration?]

theorem declaration?_imported (classes : List RecordClass) (name : String) :
    declaration? imported classes wanted (.imported name) = none := by
  induction classes with
  | nil => rfl
  | cons cls earlier ih =>
    have apart : Ancestor.imported name ≠ .declared cls.name := nofun
    rw [declaration?_cons_of_ne apart, ih]

theorem nodup_completeTable (classes : List RecordClass) (ancestor : Ancestor) :
    ((completeTable imported classes ancestor).map (·.name)).Nodup := by
  induction classes with
  | nil => exact List.nodup_nil
  | cons cls earlier ih =>
    rw [completeTable]
    split
    · exact nodup_overlayBy (nodup_overlays _)
    · exact ih

/-- In the complete table of a class its own last declaration of a name counts, and otherwise the
one in the table of the first ancestor that has one. -/
theorem declaration?_self {merged : List Ancestor}
    (found : linearization? imported (cls :: earlier) (.declared cls.name) =
      some (.declared cls.name :: merged)) :
    declaration? imported (cls :: earlier) wanted (.declared cls.name) =
      (cls.declarations.reverse.find? (·.name == wanted)).or
        (merged.findSome? (declaration? imported earlier wanted)) := by
  have tables : ∀ table ∈ merged.reverse.map (completeTable imported earlier),
      (table.map (·.name)).Nodup :=
    List.forall_mem_map.2 fun ancestor _ => nodup_completeTable earlier ancestor
  rw [declaration?, completeTable, if_pos rfl, found, Option.getD_some, List.tail_cons,
    find?_overlayBy, find?_overlays tables, ← List.map_reverse, List.reverse_reverse,
    List.findSome?_map]
  rfl

/-- A complete table has every name that the table of an ancestor has. -/
theorem isSome_declaration? (distinct : (classes.map (·.name)).Nodup)
    (found : linearization? imported classes ancestor = some order) {item : Ancestor}
    (member : item ∈ order) (given : (declaration? imported classes wanted item).isSome) :
    (declaration? imported classes wanted ancestor).isSome := by
  induction classes generalizing ancestor order with
  | nil => cases given
  | cons cls earlier ih =>
    have distinctEarlier := (List.nodup_cons.1 distinct).2
    by_cases isSelf : ancestor = .declared cls.name
    · subst isSelf
      obtain ⟨orders, merged, rfl, mergedParents⟩ := linearization?_self found
      rcases List.mem_cons.1 member with rfl | inside
      · exact given
      · obtain ⟨parent, -, order, foundParent, -, inOrder⟩ := mergedParents.exists_parent inside
        rw [declaration?_cons_of_ne (ne_of_linearization? distinct foundParent inOrder)] at given
        rw [declaration?_self found, Option.isSome_or, Bool.or_eq_true]
        exact .inr (List.findSome?_isSome_iff.2 ⟨item, inside, given⟩)
    · rw [linearization?_cons_of_ne isSelf] at found
      rw [declaration?_cons_of_ne (ne_of_linearization? distinct found member)] at given
      rw [declaration?_cons_of_ne isSelf]
      exact ih distinctEarlier found member given

/-- The first declaration of a name along the merged ancestors is the first one along the
parents. -/
theorem MergedParents.findSome?_parents {parents merged : List Ancestor}
    {orders : List (List Ancestor)} (distinct : (earlier.map (·.name)).Nodup)
    (mergedParents : MergedParents imported earlier parents orders merged) :
    merged.findSome? (declaration? imported earlier wanted) =
      parents.findSome? (declaration? imported earlier wanted) := by
  have kept : parents.Sublist merged :=
    Precedence.sublist_of_merge? mergedParents.isMerge
      (List.mem_append_right _ (List.mem_singleton_self parents))
  refine Precedence.findSome?_merged (Precedence.nodup_of_merge? mergedParents.isMerge) kept ?_
  intro item member given
  obtain ⟨parent, parentIn, order, found, orderKept, inside⟩ := mergedParents.exists_parent member
  obtain ⟨rest, rfl⟩ := exists_of_linearization? found
  exact ⟨parent, parentIn, rest, orderKept, inside,
    isSome_declaration? distinct found inside given⟩

end Fieldwise
