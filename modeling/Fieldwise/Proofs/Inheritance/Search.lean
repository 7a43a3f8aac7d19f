import Fieldwise.Proofs.Inheritance.Linearization
import Mathlib.Data.List.Dedup

/-! # Searching the bases for ancestors

A search through the bases of a class comes to every ancestor, to some more than once. In the order
in which it comes to them last (`depthFirst`) they are the classes of the module that are in the
linearisation, in another order perhaps (`depthFirst_perm`). -/

namespace Fieldwise

open Source (Expr)

/-- The name of a class of the module. -/
def Ancestor.declared? : Ancestor → Option String
  | .declared name => some name
  | .imported _ => none

namespace RecordClass

/-- A class and its ancestors, as often as a search through the bases comes to them: it goes
through the ancestors of a base before the next base. -/
def preorder : List RecordClass → String → List String
  | [], _ => []
  | cls :: earlier, name =>
    if name = cls.name then
      name :: (cls.head.bases.filterMap (·.dotted?)).flatMap (preorder earlier)
    else preorder earlier name

/-- A class and its ancestors in the order in which a search through the bases comes to them
last. -/
def depthFirst (classes : List RecordClass) (name : String) : List String :=
  (preorder classes name).dedup

end RecordClass

open RecordClass

variable {imported : Expr → String} {cls : RecordClass} {classes earlier : List RecordClass}
  {ancestor : Ancestor} {order : List Ancestor} {name : String}

/-! ## Classes in a linearisation -/

/-- Everything in the order of an imported class is an imported class, whose own order is kept. -/
theorem Ancestor.exists_of_mem_importedOrder {item : Ancestor}
    (member : item ∈ importedOrder name) : ∃ text rest, item = .imported text ∧
      importedOrder text = item :: rest ∧ (item :: rest).Sublist (importedOrder name) := by
  by_cases isRoot : Ancestor.imported name = root
  · rw [importedOrder, if_pos isRoot] at member ⊢
    obtain rfl := List.mem_singleton.1 member
    exact ⟨"object", [], rfl, rfl, List.Sublist.refl _⟩
  · have order : importedOrder name = [.imported name, root] := if_neg isRoot
    rw [order] at member ⊢
    rcases List.mem_cons.1 member with rfl | member
    · exact ⟨name, [root], rfl, order, List.Sublist.refl _⟩
    · obtain rfl := List.mem_singleton.1 member
      exact ⟨"object", [], rfl, rfl, List.sublist_cons_self _ _⟩

/-- Every class in a linearisation has a linearisation of its own, which is kept there. -/
theorem sublist_of_mem_linearization? (distinct : (classes.map (·.name)).Nodup)
    (linearized : linearization? imported classes ancestor = some order) {item : Ancestor}
    (member : item ∈ order) : ∃ rest,
      linearization? imported classes item = some (item :: rest) ∧ (item :: rest).Sublist order := by
  induction classes generalizing ancestor order with
  | nil =>
    cases ancestor with
    | declared _ => cases linearized
    | imported name =>
      cases linearized
      obtain ⟨text, rest, rfl, isOrder, kept⟩ := Ancestor.exists_of_mem_importedOrder member
      exact ⟨rest, congrArg some isOrder, kept⟩
  | cons cls earlier ih =>
    have distinctEarlier := (List.nodup_cons.1 distinct).2
    by_cases isSelf : ancestor = .declared cls.name
    · subst isSelf
      obtain ⟨orders, merged, rfl, mergedParents⟩ := linearization?_self linearized
      rcases List.mem_cons.1 member with rfl | inside
      · exact ⟨merged, linearized, List.Sublist.refl _⟩
      · obtain ⟨parent, -, order, found, kept, inOrder⟩ := mergedParents.exists_parent inside
        obtain ⟨rest, own, within⟩ := ih distinctEarlier found inOrder
        refine ⟨rest, ?_, (within.trans kept).cons _⟩
        rw [linearization?_cons_of_ne (ne_of_linearization? distinct found inOrder)]
        exact own
    · rw [linearization?_cons_of_ne isSelf] at linearized
      obtain ⟨rest, own, within⟩ := ih distinctEarlier linearized member
      refine ⟨rest, ?_, within⟩
      rw [linearization?_cons_of_ne (ne_of_linearization? distinct linearized member)]
      exact own

theorem nodup_of_linearization? (distinct : (classes.map (·.name)).Nodup)
    (linearized : linearization? imported classes ancestor = some order) : order.Nodup := by
  induction classes generalizing ancestor order with
  | nil =>
    cases ancestor with
    | declared _ => cases linearized
    | imported name =>
      cases linearized
      rw [Ancestor.importedOrder]
      split
      · exact List.nodup_singleton _
      · rename_i apart
        exact List.nodup_cons.2 ⟨by simpa using apart, List.nodup_singleton _⟩
  | cons cls earlier ih =>
    by_cases isSelf : ancestor = .declared cls.name
    · subst isSelf
      obtain ⟨orders, merged, rfl, mergedParents⟩ := linearization?_self linearized
      refine List.nodup_cons.2 ⟨fun member => ?_, Precedence.nodup_of_merge? mergedParents.isMerge⟩
      obtain ⟨parent, -, order, found, -, inOrder⟩ := mergedParents.exists_parent member
      exact ne_of_linearization? distinct found inOrder rfl
    · rw [linearization?_cons_of_ne isSelf] at linearized
      exact ih (List.nodup_cons.1 distinct).2 linearized

theorem mem_filterMap_declared? : name ∈ order.filterMap Ancestor.declared? ↔
    Ancestor.declared name ∈ order := by
  rw [List.mem_filterMap]
  constructor
  · rintro ⟨ancestor, member, isDeclared⟩
    cases ancestor with
    | declared text =>
      obtain rfl := Option.some.inj isDeclared
      exact member
    | imported _ => cases isDeclared
  · exact fun member => ⟨_, member, rfl⟩

/-! ## What a search comes to -/

namespace RecordClass

theorem known_of_mem_preorder {other : String} (member : other ∈ preorder classes name) :
    other ∈ classes.map (·.name) ∧ name ∈ classes.map (·.name) := by
  induction classes generalizing name with
  | nil => cases member
  | cons cls earlier ih =>
    rw [preorder] at member
    split at member
    · rename_i isSelf
      subst isSelf
      rcases List.mem_cons.1 member with rfl | inside
      · exact ⟨List.mem_cons_self, List.mem_cons_self⟩
      · obtain ⟨text, -, inside⟩ := List.mem_flatMap.1 inside
        exact ⟨List.mem_cons_of_mem _ (ih inside).1, List.mem_cons_self⟩
    · exact (ih member).imp (List.mem_cons_of_mem _) (List.mem_cons_of_mem _)

theorem preorder_of_unknown (unknown : name ∉ classes.map (·.name)) :
    preorder classes name = [] := by
  refine List.eq_nil_iff_forall_not_mem.2 fun other member => ?_
  exact unknown (known_of_mem_preorder member).2

end RecordClass

theorem linearization?_imported (classes : List RecordClass) (name : String) :
    linearization? imported classes (.imported name) = some (Ancestor.importedOrder name) := by
  induction classes with
  | nil => rfl
  | cons cls earlier ih =>
    have apart : Ancestor.imported name ≠ .declared cls.name := nofun
    rw [linearization?_cons_of_ne apart, ih]

namespace RecordClass

theorem ancestor_eq_declared_iff {base : Expr} :
    RecordClass.ancestor imported earlier base = .declared name ↔
      base.dotted? = some name ∧ name ∈ earlier.map (·.name) := by
  have isKept : base.dotted?.filter (· ∈ earlier.map (·.name)) = some name ↔
      base.dotted? = some name ∧ name ∈ earlier.map (·.name) := by
    rw [Option.filter_eq_some_iff, decide_eq_true_iff]
  rw [← isKept, RecordClass.ancestor]
  split
  · rename_i isText
    rw [isText, Ancestor.declared.injEq, Option.some.injEq]
  · rename_i isNone
    rw [isNone]
    exact ⟨nofun, nofun⟩

/-- The parents of a class that are classes of the module are its bases of their names. -/
theorem declared_mem_parents_iff : Ancestor.declared name ∈ cls.parents imported earlier ↔
    name ∈ cls.head.bases.filterMap (·.dotted?) ∧ name ∈ earlier.map (·.name) := by
  have isParent : Ancestor.declared name ∈ cls.parents imported earlier ↔
      ∃ base ∈ cls.head.bases, RecordClass.ancestor imported earlier base = .declared name := by
    rw [parents]
    split
    · rename_i empty
      rw [List.isEmpty_iff.1 empty]
      exact ⟨fun member => (nomatch List.mem_singleton.1 member), fun found => (nomatch found)⟩
    · exact List.mem_map
  rw [isParent, List.mem_filterMap]
  simp only [ancestor_eq_declared_iff, ← and_assoc, exists_and_right]

end RecordClass

/-- A search through the bases comes to the linearised ancestors. -/
theorem mem_preorder_iff (distinct : (classes.map (·.name)).Nodup)
    (linearized : linearization? imported classes (.declared name) = some order) {other : String} :
    other ∈ preorder classes name ↔ Ancestor.declared other ∈ order := by
  induction classes generalizing name order with
  | nil => cases linearized
  | cons cls earlier ih =>
    obtain ⟨fresh, distinctEarlier⟩ := List.nodup_cons.1 distinct
    by_cases isSelf : name = cls.name
    · subst isSelf
      obtain ⟨orders, merged, rfl, mergedParents⟩ := linearization?_self linearized
      rw [preorder, if_pos rfl, List.mem_cons, List.mem_cons, Ancestor.declared.injEq]
      refine or_congr_right ⟨fun inside => ?_, fun member => ?_⟩
      · obtain ⟨text, inBases, inside⟩ := List.mem_flatMap.1 inside
        have parentIn : Ancestor.declared text ∈ cls.parents imported earlier :=
          declared_mem_parents_iff.2 ⟨inBases, (known_of_mem_preorder inside).2⟩
        obtain ⟨order, orderIn, found⟩ := exists_of_forall₂ mergedParents.each.flip _ parentIn
        have kept : order.Sublist merged :=
          Precedence.sublist_of_merge? mergedParents.isMerge (List.mem_append_left _ orderIn)
        exact kept.subset ((ih distinctEarlier found).1 inside)
      · obtain ⟨parent, parentIn, order, found, -, inOrder⟩ := mergedParents.exists_parent member
        cases parent with
        | declared text =>
          refine List.mem_flatMap.2 ⟨text, (declared_mem_parents_iff.1 parentIn).1, ?_⟩
          exact (ih distinctEarlier found).2 inOrder
        | imported text =>
          rw [linearization?_imported] at found
          cases found
          obtain ⟨_, _, isImported, -⟩ := Ancestor.exists_of_mem_importedOrder inOrder
          cases isImported
    · have apart : Ancestor.declared name ≠ .declared cls.name := fun same =>
        isSelf (Ancestor.declared.inj same)
      rw [linearization?_cons_of_ne apart] at linearized
      rw [preorder, if_neg isSelf]
      exact ih distinctEarlier linearized

theorem nodup_declared_linearization? (distinct : (classes.map (·.name)).Nodup)
    (linearized : linearization? imported classes ancestor = some order) :
    (order.filterMap Ancestor.declared?).Nodup := by
  refine (nodup_of_linearization? distinct linearized).filterMap ?_
  intro first second text isFirst isSecond
  cases first with
  | imported _ => cases isFirst
  | declared _ =>
    cases second with
    | imported _ => cases isSecond
    | declared _ => exact congrArg _ (Option.some.inj (isFirst.trans isSecond.symm))

/-- The order of a search through the bases has the linearised ancestors as its members. -/
theorem depthFirst_perm (distinct : (classes.map (·.name)).Nodup)
    (linearized : linearization? imported classes (.declared name) = some order) :
    (depthFirst classes name).Perm (order.filterMap Ancestor.declared?) := by
  refine (List.perm_ext_iff_of_nodup (List.nodup_dedup _)
    (nodup_declared_linearization? distinct linearized)).2 fun other => ?_
  rw [List.mem_dedup, mem_preorder_iff distinct linearized, mem_filterMap_declared?]

end Fieldwise
