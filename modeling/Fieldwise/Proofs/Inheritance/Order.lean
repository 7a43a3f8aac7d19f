import Fieldwise.Proofs.Inheritance.Fields
import Fieldwise.Proofs.Inheritance.Search

/-! # The order of inherited fields

In tables that are laid over each other a key keeps the place where the lowest table puts it. So
both the fields of a record type and the complete table of its class are the names that the
ancestors declare, from the last ancestor to the first, each at its first occurrence
(`namesAlong`). For the complete table the ancestors are in the order of their linearisation, for
the extracted fields they are in the order in which a search through the bases finds them last
(`depthFirst`). The two orders have the same members, but they may differ, and then so do the names
(`RecordType.fieldNames_linearized`). -/

namespace Fieldwise

open Source (Expr Statement)

/-! ## Names along an order -/

namespace RecordClass

/-- The names that the class of a name declares itself, in order. -/
def declaredNames (classes : List RecordClass) (name : String) : List String :=
  ((classes.find? (·.name == name)).map fun cls => cls.declarations.map (·.name)).getD []

/-- The names that classes declare, from the last class to the first, each at its first
occurrence. -/
def namesAlong (classes : List RecordClass) (order : List String) : List String :=
  firstOccurrences (order.reverse.flatMap (declaredNames classes))

end RecordClass

open RecordClass

variable {marker : String} {imported : Expr → String} {cls : RecordClass}
  {classes earlier : List RecordClass} {record : RecordType} {records : List RecordType}
  {ancestor : Ancestor} {order : List Ancestor} {name : String}

namespace RecordClass

/-- The names that the class of a name declares itself, the last one first. -/
def declaredFromEnd (classes : List RecordClass) (name : String) : List String :=
  (declaredNames classes name).reverse

theorem reverse_namesAlong (classes : List RecordClass) (order : List String) :
    (namesAlong classes order).reverse = (order.flatMap (declaredFromEnd classes)).dedup := by
  rw [namesAlong, firstOccurrences, List.reverse_reverse, List.reverse_flatMap,
    List.reverse_reverse]
  rfl

/-- A table has the names along an order if it has their keys from the end. -/
theorem eq_namesAlong {α : Type} {key : α → String} {table : List α} {order : List String}
    (fromEnd : keysFromEnd key table = (order.flatMap (declaredFromEnd classes)).dedup) :
    table.map key = namesAlong classes order := by
  refine List.reverse_injective ?_
  rw [reverse_namesAlong, ← fromEnd]
  rfl

theorem declaredFromEnd_self (cls : RecordClass) (earlier : List RecordClass) :
    declaredFromEnd (cls :: earlier) cls.name = keysFromEnd (·.name) cls.declarations := by
  rw [declaredFromEnd, declaredNames, List.find?_cons_of_pos (by simp)]
  rfl

theorem declaredFromEnd_cons_of_ne (apart : name ≠ cls.name) :
    declaredFromEnd (cls :: earlier) name = declaredFromEnd earlier name := by
  rw [declaredFromEnd, declaredNames,
    List.find?_cons_of_neg (by simpa using Ne.symm apart)]
  rfl

/-- What earlier classes declare, they declare without the later ones, too. -/
theorem flatMap_declaredFromEnd_earlier (fresh : cls.name ∉ earlier.map (·.name))
    {order : List String} (known : ∀ name ∈ order, name ∈ earlier.map (·.name)) :
    order.flatMap (declaredFromEnd (cls :: earlier)) =
      order.flatMap (declaredFromEnd earlier) := by
  refine List.flatMap_congr fun name member => declaredFromEnd_cons_of_ne ?_
  rintro rfl
  exact fresh (known _ member)

end RecordClass

/-! ## The order of a complete table -/

/-- Tables that each have the names along a linearisation have, laid over each other, the names
along the merge of the linearisations. -/
theorem MergedParents.dedup_tables {parents merged : List Ancestor}
    {orders : List (List Ancestor)} (distinct : (earlier.map (·.name)).Nodup)
    (mergedParents : MergedParents imported earlier parents orders merged)
    (table : Ancestor → List String) (expand : String → List String)
    (along : ∀ ancestor order, linearization? imported earlier ancestor = some order →
      table ancestor = ((order.filterMap Ancestor.declared?).flatMap expand).dedup) :
    (merged.flatMap table).dedup =
      ((merged.filterMap Ancestor.declared?).flatMap expand).dedup := by
  let own : Ancestor → List Ancestor := fun item => (linearization? imported earlier item).getD []
  have within : ∀ item ∈ merged, ∃ rest, own item = item :: rest ∧
      (item :: rest).Sublist merged ∧
      table item = (((own item).filterMap Ancestor.declared?).flatMap expand).dedup := by
    intro item member
    obtain ⟨parent, -, order, found, kept, inOrder⟩ := mergedParents.exists_parent member
    obtain ⟨rest, ownFound, inside⟩ := sublist_of_mem_linearization? distinct found inOrder
    have isOwn : own item = item :: rest := by simp only [own, ownFound, Option.getD_some]
    refine ⟨rest, isOwn, inside.trans kept, ?_⟩
    rw [isOwn]
    exact along item _ ownFound
  have once : (merged.flatMap own).dedup = merged := by
    refine dedup_flatMap_of_sublist (Precedence.nodup_of_merge? mergedParents.isMerge) ?_
    intro item member
    obtain ⟨rest, isOwn, kept, -⟩ := within item member
    exact ⟨rest, isOwn, kept⟩
  have declared : ∀ ancestors : List Ancestor,
      (ancestors.filterMap Ancestor.declared?).flatMap expand =
        ancestors.flatMap fun item => item.declared?.toList.flatMap expand := fun ancestors => by
    rw [List.filterMap_eq_flatMap_toList, List.flatMap_assoc]
  have tables : merged.flatMap table = merged.flatMap fun item =>
      ((own item).flatMap fun item => item.declared?.toList.flatMap expand).dedup := by
    refine List.flatMap_congr fun item member => ?_
    obtain ⟨rest, -, -, isTable⟩ := within item member
    rw [isTable, declared]
  rw [tables, dedup_flatMap_dedup_flatMap, once, declared]

/-- The names of a complete table are those that the linearised ancestors declare. -/
theorem keysFromEnd_completeTable (distinct : (classes.map (·.name)).Nodup)
    (linearized : linearization? imported classes ancestor = some order) :
    keysFromEnd (·.name) (completeTable imported classes ancestor) =
      ((order.filterMap Ancestor.declared?).flatMap (declaredFromEnd classes)).dedup := by
  induction classes generalizing ancestor order with
  | nil =>
    have none : ∀ names : List String, names.flatMap (declaredFromEnd []) = [] := fun names =>
      List.flatMap_eq_nil_iff.2 fun _ _ => rfl
    rw [none]
    rfl
  | cons cls earlier ih =>
    obtain ⟨fresh, distinctEarlier⟩ := List.nodup_cons.1 distinct
    by_cases isSelf : ancestor = .declared cls.name
    · subst isSelf
      obtain ⟨orders, merged, rfl, mergedParents⟩ := linearization?_self linearized
      have known : ∀ name ∈ merged.filterMap Ancestor.declared?, name ∈ earlier.map (·.name) := by
        intro name member
        obtain ⟨parent, -, order, found, -, inOrder⟩ :=
          mergedParents.exists_parent (mem_filterMap_declared?.1 member)
        exact known_of_linearization? found inOrder
      have tables := mergedParents.dedup_tables distinctEarlier
        (fun item => keysFromEnd (·.name) (completeTable imported earlier item))
        (declaredFromEnd earlier) fun item order found => ih distinctEarlier found
      rw [completeTable, if_pos rfl, linearized, Option.getD_some, List.tail_cons,
        keysFromEnd_overlayBy (nodup_overlays _), keysFromEnd_overlays, dedup_append_dedup,
        ← List.map_reverse, List.reverse_reverse, List.flatMap_map, ← dedup_append_dedup, tables,
        dedup_append_dedup]
      have self : (Ancestor.declared cls.name :: merged).filterMap Ancestor.declared? =
          cls.name :: merged.filterMap Ancestor.declared? := rfl
      rw [self, List.flatMap_cons, declaredFromEnd_self,
        flatMap_declaredFromEnd_earlier fresh known]
    · rw [linearization?_cons_of_ne isSelf] at linearized
      have known : ∀ name ∈ order.filterMap Ancestor.declared?, name ∈ earlier.map (·.name) :=
        fun name member => known_of_linearization? linearized (mem_filterMap_declared?.1 member)
      rw [completeTable, if_neg isSelf, ih distinctEarlier linearized,
        flatMap_declaredFromEnd_earlier fresh known]

theorem names_completeTable (distinct : (classes.map (·.name)).Nodup)
    (linearized : linearization? imported classes ancestor = some order) :
    (completeTable imported classes ancestor).map (·.name) =
      namesAlong classes (order.filterMap Ancestor.declared?) :=
  eq_namesAlong (keysFromEnd_completeTable distinct linearized)

/-! ## The order of extracted fields -/

namespace Extracts

/-- The names of the fields that a class takes over are those that a search through its bases comes
to, if this holds of the fields of its bases. -/
theorem keysFromEnd_inherited (extracts : Extracts marker classes records) (bases : List Expr)
    (before : ∀ record ∈ records, keysFromEnd (·.field.name) record.fields =
      ((preorder classes record.name).flatMap (declaredFromEnd classes)).dedup) :
    keysFromEnd (·.field.name) (RecordType.inherited records bases).1 =
      (((bases.filterMap (·.dotted?)).flatMap (preorder classes)).flatMap
        (declaredFromEnd classes)).dedup := by
  have named : ∀ text : String,
      (RecordType.find? records text).toList.flatMap
          (fun record => keysFromEnd (·.field.name) record.fields) =
        ((preorder classes text).flatMap (declaredFromEnd classes)).dedup := by
    intro text
    cases found : RecordType.find? records text with
    | none =>
      have unknown : text ∉ classes.map (·.name) := by
        rw [← extracts.names]
        intro member
        obtain ⟨record, inRecords, isNamed⟩ := List.mem_map.1 member
        exact List.find?_eq_none.1 found record inRecords (beq_iff_eq.2 isNamed)
      rw [preorder_of_unknown unknown]
      rfl
    | some record =>
      have sameName : record.name = text := by simpa using List.find?_some found
      rw [Option.toList_some, List.flatMap_singleton,
        before record (List.mem_of_find?_eq_some found), sameName]
  have found : bases.filterMap (RecordType.base? records) =
      (bases.filterMap (·.dotted?)).filterMap (RecordType.find? records) := by
    rw [List.filterMap_filterMap]
    rfl
  rw [RecordType.inherited_eq, keysFromEnd_overlays, ← List.map_reverse, List.reverse_reverse,
    List.flatMap_map, found, List.filterMap_eq_flatMap_toList, List.flatMap_assoc,
    List.flatMap_congr fun text _ => named text, dedup_flatMap_dedup, List.flatMap_assoc]

/-- The names of the fields of a record type are those that a search through its bases comes to. -/
theorem keysFromEnd_fields (extracts : Extracts marker classes records)
    (distinct : (classes.map (·.name)).Nodup) (member : record ∈ records) :
    keysFromEnd (·.field.name) record.fields =
      ((preorder classes record.name).flatMap (declaredFromEnd classes)).dedup := by
  induction extracts generalizing record with
  | nil => cases member
  | @cons cls classes latest records isModel made earlier ih =>
    obtain ⟨fresh, distinctEarlier⟩ := List.nodup_cons.1 distinct
    rcases List.mem_cons.1 member with rfl | inEarlier
    · obtain ⟨-, own, declared, rfl⟩ := RecordType.ofClass_eq_ok made
      have ownNames : keysFromEnd (·.field.name) own = keysFromEnd (·.name) cls.declarations :=
        congrArg List.reverse
          (map_eq_of_forall₂ (gives_ownFields declared) fun _ _ gives => gives.name).symm
      have inherited := earlier.keysFromEnd_inherited cls.head.bases
        fun base baseIn => ih distinctEarlier baseIn
      have distinctKeys : ((RecordType.inherited records cls.head.bases).1.map
          (·.field.name)).Nodup := by
        rw [RecordType.inherited_eq]
        exact nodup_overlays _
      have known : ∀ name ∈ (cls.head.bases.filterMap (·.dotted?)).flatMap (preorder classes),
          name ∈ classes.map (·.name) := by
        intro name inside
        obtain ⟨text, -, inside⟩ := List.mem_flatMap.1 inside
        exact (known_of_mem_preorder inside).1
      have search : preorder (cls :: classes) cls.head.name = cls.name ::
          (cls.head.bases.filterMap (·.dotted?)).flatMap (preorder classes) := if_pos rfl
      rw [RecordType.overlay_eq, keysFromEnd_overlayBy distinctKeys, ownNames, inherited,
        dedup_append_dedup, search, List.flatMap_cons, declaredFromEnd_self,
        flatMap_declaredFromEnd_earlier fresh known]
    · have known : record.name ∈ classes.map (·.name) := by
        rw [← earlier.names]
        exact List.mem_map_of_mem inEarlier
      have apart : record.name ≠ cls.name := by
        intro same
        rw [same] at known
        exact fresh known
      have inSearch : ∀ name ∈ preorder classes record.name, name ∈ classes.map (·.name) :=
        fun name inside => (known_of_mem_preorder inside).1
      rw [ih distinctEarlier inEarlier, preorder, if_neg apart,
        flatMap_declaredFromEnd_earlier fresh inSearch]

theorem names_fields (extracts : Extracts marker classes records)
    (distinct : (classes.map (·.name)).Nodup) (member : record ∈ records) :
    record.fields.map (·.field.name) = namesAlong classes (depthFirst classes record.name) :=
  eq_namesAlong ((extracts.keysFromEnd_fields distinct member).trans (dedup_dedup_flatMap _ _).symm)

end Extracts

/-! ## Fields and complete tables -/

theorem perm_namesAlong {first second : List String} (sameMembers : first.Perm second) :
    (namesAlong classes first).Perm (namesAlong classes second) := by
  have fromEnd : (namesAlong classes first).reverse.Perm (namesAlong classes second).reverse := by
    rw [reverse_namesAlong, reverse_namesAlong]
    exact (sameMembers.flatMap_right _).dedup
  exact (List.reverse_perm _).symm.trans (fromEnd.trans (List.reverse_perm _))

/-- If every class declares a name that no other one does, the names along two orders of the classes
are the same only if the orders are. -/
theorem namesAlong_injective {first second : List String} (sameMembers : first.Perm second)
    (distinct : second.Nodup) {part : String → String}
    (own : OwnParts second (declaredNames classes) part)
    (same : namesAlong classes first = namesAlong classes second) : first = second := by
  have ownFromEnd : OwnParts second (declaredFromEnd classes) part := by
    refine ⟨fun name member => List.mem_reverse.2 (own.mem name member), ?_⟩
    intro name member other otherIn inside
    exact own.eq name member other otherIn (List.mem_reverse.1 inside)
  refine ownFromEnd.eq_of_dedup_flatMap_eq (sameMembers.nodup_iff.2 distinct) distinct
    sameMembers.subset (List.Subset.refl _) ?_
  rw [← reverse_namesAlong, ← reverse_namesAlong, same]

/-- Fields are listed along a search through the bases and not along the linearisation. In a module
of classes with distinct names, let a record type be extracted from a class that has a
linearisation, where every base is the name of an earlier record class or else an imported class.
The names of its fields are those along the search, and the names of the complete table are those
along the linearisation. So they are the same names, but if each ancestor declares one that no other
ancestor does, they are in the same order only if both orders of the ancestors agree. -/
theorem RecordType.fieldNames_linearized {statements : List Statement}
    (distinct : ((RecordClass.ofStatements statements).map (·.name)).Nodup)
    (member : record ∈ (RecordType.ofStatements marker [] statements).1) {order : List Ancestor}
    (linearized : linearization? imported (RecordClass.extracted marker statements)
      (.declared record.name) = some order) :
    record.fields.map (·.field.name) = namesAlong (RecordClass.extracted marker statements)
      (depthFirst (RecordClass.extracted marker statements) record.name) ∧
    (completeTable imported (RecordClass.extracted marker statements)
        (.declared record.name)).map (·.name) =
      namesAlong (RecordClass.extracted marker statements)
        (order.filterMap Ancestor.declared?) ∧
    (record.fields.map (·.field.name)).Perm
      ((completeTable imported (RecordClass.extracted marker statements)
        (.declared record.name)).map (·.name)) ∧
    ∀ part : String → String,
      OwnParts (order.filterMap Ancestor.declared?)
        (declaredNames (RecordClass.extracted marker statements)) part →
      (record.fields.map (·.field.name) =
          (completeTable imported (RecordClass.extracted marker statements)
            (.declared record.name)).map (·.name) ↔
        depthFirst (RecordClass.extracted marker statements) record.name =
          order.filterMap Ancestor.declared?) := by
  have extracts : Extracts marker (RecordClass.extracted marker statements)
      (RecordType.ofStatements marker [] statements).1 := .extracted distinct
  have distinctExtracted : ((RecordClass.extracted marker statements).map (·.name)).Nodup := by
    rw [RecordClass.extracted, List.map_reverse, List.nodup_reverse]
    exact distinct.sublist (List.filter_sublist.map _)
  have listed := extracts.names_fields distinctExtracted member
  have complete := names_completeTable distinctExtracted linearized
  have sameMembers := depthFirst_perm distinctExtracted linearized
  refine ⟨listed, complete, ?_, fun part own => ?_⟩
  · rw [listed, complete]
    exact perm_namesAlong sameMembers
  · rw [listed, complete]
    refine ⟨namesAlong_injective sameMembers ?_ own, fun same => by rw [same]⟩
    exact nodup_declared_linearization? distinctExtracted linearized

/-- Five data classes, the last of which reaches the first one through both of its bases, and
another one through the first base only. -/
def crossingModule : List Statement :=
  [.classDefinition ⟨1, "A", [.name "dataclass"], []⟩ [.annotated (.name "a") (.name "int") none],
    .classDefinition ⟨4, "M", [.name "dataclass"], []⟩ [.annotated (.name "m") (.name "int") none],
    .classDefinition ⟨7, "B", [.name "dataclass"], [.name "A", .name "M"]⟩
      [.annotated (.name "b") (.name "int") none],
    .classDefinition ⟨10, "C", [.name "dataclass"], [.name "A"]⟩
      [.annotated (.name "c") (.name "int") none],
    .classDefinition ⟨13, "D", [.name "dataclass"], [.name "B", .name "C"]⟩
      [.annotated (.name "d") (.name "int") none]]

/-- A search from `D` comes to `A` last through `C`, after `M`, but `A` stands before `M` among the
bases of `B`. -/
theorem RecordType.fieldNames_linearized_crossing :
    ((RecordClass.ofStatements crossingModule).map (·.name)).Nodup ∧
    linearization? (fun _ => "object") (RecordClass.extracted "Optional" crossingModule)
        (.declared "D") =
      some [.declared "D", .declared "B", .declared "C", .declared "A", .declared "M", .root] ∧
    depthFirst (RecordClass.extracted "Optional" crossingModule) "D" = ["D", "B", "M", "C", "A"] ∧
    OwnParts ["D", "B", "C", "A", "M"]
      (declaredNames (RecordClass.extracted "Optional" crossingModule)) String.toLower ∧
    ∃ record ∈ (RecordType.ofStatements "Optional" [] crossingModule).1, record.name = "D" ∧
      record.fields.map (·.field.name) ≠
        (completeTable (fun _ => "object") (RecordClass.extracted "Optional" crossingModule)
          (.declared "D")).map (·.name) := by
  have distinct : ((RecordClass.ofStatements crossingModule).map (·.name)).Nodup := by decide
  have linearized : linearization? (fun _ => "object")
      (RecordClass.extracted "Optional" crossingModule) (.declared "D") =
        some [.declared "D", .declared "B", .declared "C", .declared "A", .declared "M", .root] := by
    decide +kernel
  have searched : depthFirst (RecordClass.extracted "Optional" crossingModule) "D" =
      ["D", "B", "M", "C", "A"] := by
    decide +kernel
  have own : OwnParts ["D", "B", "C", "A", "M"]
      (declaredNames (RecordClass.extracted "Optional" crossingModule)) String.toLower :=
    ⟨by decide +kernel, by decide +kernel⟩
  have named : ∃ record ∈ (RecordType.ofStatements "Optional" [] crossingModule).1,
      record.name = "D" := by
    have present : "D" ∈ (RecordType.ofStatements "Optional" [] crossingModule).1.map (·.name) := by
      decide +kernel
    exact List.mem_map.1 present
  obtain ⟨record, member, isD⟩ := named
  refine ⟨distinct, linearized, searched, own, record, member, isD, ?_⟩
  obtain ⟨-, -, -, sameOrder⟩ :=
    fieldNames_linearized distinct member (by rw [isD]; exact linearized)
  rw [isD, searched] at sameOrder
  rw [Ne, sameOrder String.toLower own]
  decide

/-- The fields of `D` are not in the order of its complete table. -/
theorem RecordType.fieldNames_crossing :
    ((RecordClass.ofStatements crossingModule).map (·.name)).Nodup ∧
    linearization? (fun _ => "object") (RecordClass.extracted "Optional" crossingModule)
        (.declared "D") =
      some [.declared "D", .declared "B", .declared "C", .declared "A", .declared "M", .root] ∧
    (completeTable (fun _ => "object") (RecordClass.extracted "Optional" crossingModule)
        (.declared "D")).map (·.name) = ["m", "a", "c", "b", "d"] ∧
    ∃ record ∈ (RecordType.ofStatements "Optional" [] crossingModule).1, record.name = "D" ∧
      record.fields.map (·.field.name) = ["a", "c", "m", "b", "d"] := by
  refine ⟨by decide, by decide +kernel, by decide +kernel, ?_⟩
  have listed : ("D", ["a", "c", "m", "b", "d"]) ∈
      (RecordType.ofStatements "Optional" [] crossingModule).1.map fun record =>
        (record.name, record.fields.map (·.field.name)) := by
    decide +kernel
  obtain ⟨record, member, same⟩ := List.mem_map.1 listed
  exact ⟨record, member, congrArg Prod.fst same, congrArg Prod.snd same⟩

end Fieldwise
