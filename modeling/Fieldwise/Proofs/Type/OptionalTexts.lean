import Fieldwise.Proofs.Type.Fragments
import Fieldwise.Proofs.Type.Markers

/-! # The texts of optional types

A type is made optional in four ways: by `None` after it or before it, by the last segment of the
marker, or by any name that ends in this segment. All four texts are read as types of one shape,
which is optional and holds what the inner text is read as (`OptionalText.shape`). The inner text is
a single word with its arguments; what it holds inside does not matter. -/

namespace Fieldwise

namespace TypeExpr

/-- The text of a single word with its arguments, which does not mean the absent value. -/
def IsAtomText (marker inner : String) : Prop :=
  ∃ tree : AtomTree, Token.scan inner = .ok tree.tokens ∧ tree.meaning marker ≠ none

/-- The four ways to make the type of a text optional. -/
inductive OptionalText (marker inner : String) : String → Prop
  | noneAfter : OptionalText marker inner (inner ++ " | None")
  | noneBefore : OptionalText marker inner ("None | " ++ inner)
  | marked : OptionalText marker inner (lastSegment marker ++ "[" ++ inner ++ "]")
  | dotted {lead : String} (name : Token.DottedName lead.toList) :
      OptionalText marker inner (lead ++ "." ++ lastSegment marker ++ "[" ++ inner ++ "]")

/-! ## Names that end in one segment -/

theorem lastSegment_lastSegment (name : String) :
    lastSegment (lastSegment name) = lastSegment name := by
  have parts : (lastSegment name).toList = name.toList.rtakeWhile (· != '.') := String.toList_ofList
  change String.ofList ((lastSegment name).toList.rtakeWhile (· != '.')) = _
  rw [parts, List.rtakeWhile_idempotent]
  rfl

theorem lastSegment_append (lead name : String) :
    lastSegment (lead ++ "." ++ name) = lastSegment name := by
  change String.ofList ((lead ++ "." ++ name).toList.rtakeWhile (· != '.')) =
    String.ofList (name.toList.rtakeWhile (· != '.'))
  rw [String.toList_append, String.toList_append, List.append_assoc]
  exact congrArg String.ofList (Token.lastPart_append lead.toList name.toList)

theorem dottedName_lastSegment {name : String} (dotted : Token.DottedName name.toList) :
    Token.DottedName (lastSegment name).toList := by
  obtain ⟨first, rest, segment, start, parts⟩ := dotted.lastPart
  have whole : (lastSegment name).toList = first :: rest := String.toList_ofList.trans segment
  rw [whole]
  exact .segment start parts

/-! ## Reading the four texts -/

variable {marker inner text : String}

/-- A text is read as what the derivation of its tokens means. -/
theorem read_of_scan (dotted : Token.DottedName marker.toList) {tree : UnionTree}
    (scanned : Token.scan text = .ok tree.tokens) :
    read marker text = .ok (tree.meaning marker) :=
  read_of_derives scanned (tree.derives (visible_of_dottedName dotted))

theorem AtomTree.tokens_ne_nil (tree : AtomTree) : tree.tokens ≠ [] := by
  obtain ⟨name, rest, same⟩ := tree.tokens_eq_cons
  rw [same]
  exact List.cons_ne_nil _ _

theorem spells_none : Token.Spells "None".toList (AtomTree.bare "None").tokens :=
  .word (.name (.segment (by decide) (List.all_eq_true.1 (by decide))))

/-- Beside the absent value an alternative that is another one is optional, on either side. -/
theorem alternativesMeaning_none (dotted : Token.DottedName marker.toList) {type : TypeExpr}
    (present : type ≠ none) :
    alternativesMeaning marker [type, none] = mk marker [type] ∧
      alternativesMeaning marker [none, type] = mk marker [type] := by
  rw [alternativesMeaning, alternativesMeaning, strip_of_dottedName dotted]
  simp [present]

/-- Any name that ends in the last segment of the marker makes its argument optional. -/
theorem shape_applied {name : String} (sameSegment : lastSegment name = lastSegment marker)
    (type : TypeExpr) : (mk name [type]).shape marker = ⟨true, type⟩ :=
  if_pos sameSegment

/-- A name with a text in brackets after it applies the name to the type of the text. -/
theorem read_applied (dotted : Token.DottedName marker.toList) {name : String}
    (isName : Token.DottedName name.toList) {tree : AtomTree}
    (scanned : Token.scan inner = .ok tree.tokens) :
    read marker (name ++ "[" ++ inner ++ "]") = .ok (mk name [tree.meaning marker]) := by
  obtain ⟨chars, blanks, padded, blank, spells⟩ := Token.Spells.of_scan scanned tree.tokens_ne_nil
  have whole : Token.scan (name ++ "[" ++ inner ++ "]") =
      .ok (UnionTree.last (.applied name (.last (.last tree)))).tokens := by
    have sameChars : (name ++ "[" ++ inner ++ "]").toList = name.toList ++
        Mark.openBracket.char :: (chars ++ (blanks ++ [Mark.closeBracket.char])) := by
      simp [padded, Mark.char]
    apply Token.Spells.scan
    rw [sameChars]
    exact spells.applied (.name isName) blank
  exact read_of_scan dotted whole

/-- The text of an atom is made optional in each of the four ways. -/
theorem OptionalText.read_eq (spelled : OptionalText marker inner text)
    (dotted : Token.DottedName marker.toList) {tree : AtomTree}
    (scanned : Token.scan inner = .ok tree.tokens) (present : tree.meaning marker ≠ none) :
    ∃ name, read marker text = .ok (mk name [tree.meaning marker]) ∧
      lastSegment name = lastSegment marker := by
  obtain ⟨chars, blanks, padded, blank, spells⟩ := Token.Spells.of_scan scanned tree.tokens_ne_nil
  have space : ∀ char ∈ [' '], Text.isBlank char := List.forall_mem_singleton.2 (by decide)
  cases spelled with
  | noneAfter =>
    have whole : Token.scan (inner ++ " | None") =
        .ok (UnionTree.more tree (.last (.bare "None"))).tokens := by
      have sameChars : (inner ++ " | None").toList =
          chars ++ ((blanks ++ [' ']) ++ Mark.bar.char :: ' ' :: "None".toList) := by
        simp [padded, Mark.char]
      apply Token.Spells.scan
      rw [sameChars]
      exact spells.separated (List.forall_mem_append.2 ⟨blank, space⟩) .bar spells_none
    rw [read_of_scan dotted whole, UnionTree.meaning]
    exact ⟨marker, congrArg Except.ok (alternativesMeaning_none dotted present).1, rfl⟩
  | noneBefore =>
    have whole : Token.scan ("None | " ++ inner) =
        .ok (UnionTree.more (.bare "None") (.last tree)).tokens := by
      refine (spells_none.separated space .bar spells).scan_padded ?_ blank
      simp [padded, Mark.char]
    rw [read_of_scan dotted whole, UnionTree.meaning]
    exact ⟨marker, congrArg Except.ok (alternativesMeaning_none dotted present).2, rfl⟩
  | marked =>
    exact ⟨_, read_applied dotted (dottedName_lastSegment dotted) scanned,
      lastSegment_lastSegment marker⟩
  | @dotted lead name =>
    have isName : Token.DottedName (lead ++ "." ++ lastSegment marker).toList := by
      rw [String.toList_append, String.toList_append, List.append_assoc]
      exact name.append (dottedName_lastSegment dotted)
    refine ⟨_, read_applied dotted isName scanned, ?_⟩
    rw [lastSegment_append, lastSegment_lastSegment]

/-- All four texts are read as a type of one shape. It is optional, and inside it is what the inner
text is read as. -/
theorem OptionalText.shape (spelled : OptionalText marker inner text)
    (dotted : Token.DottedName marker.toList) (atom : IsAtomText marker inner) :
    ∃ innerType type, read marker inner = .ok innerType ∧ read marker text = .ok type ∧
      type.shape marker = ⟨true, innerType⟩ := by
  obtain ⟨tree, scanned, present⟩ := atom
  obtain ⟨name, found, sameSegment⟩ := spelled.read_eq dotted scanned present
  have inside : read marker inner = .ok ((UnionTree.last tree).meaning marker) :=
    read_of_scan dotted scanned
  exact ⟨_, _, inside, found, shape_applied sameSegment _⟩

/-- Two texts make the type of one text optional. -/
def Respelled (marker text other : String) : Prop :=
  ∃ inner, IsAtomText marker inner ∧ OptionalText marker inner text ∧
    OptionalText marker inner other

/-- Two types that are classified alike under a marker. -/
def SameShape (marker : String) (type other : TypeExpr) : Prop :=
  type.shape marker = other.shape marker

theorem SameShape.refl (marker : String) (type : TypeExpr) : SameShape marker type type :=
  rfl

/-- Both texts are read, as types that are classified alike. -/
theorem Respelled.read_eq {other : String} (respelled : Respelled marker text other)
    (dotted : Token.DottedName marker.toList) :
    ∃ type otherType, read marker text = .ok type ∧ read marker other = .ok otherType ∧
      SameShape marker type otherType := by
  obtain ⟨inner, atom, spelled, spelledOther⟩ := respelled
  obtain ⟨innerType, type, inside, found, shape⟩ := spelled.shape dotted atom
  obtain ⟨innerType', otherType, inside', foundOther, shapeOther⟩ :=
    spelledOther.shape dotted atom
  rw [inside] at inside'
  cases inside'
  exact ⟨type, otherType, found, foundOther, shape.trans shapeOther.symm⟩

end TypeExpr

end Fieldwise
