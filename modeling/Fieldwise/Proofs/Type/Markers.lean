import Fieldwise.Proofs.Comparison
import Fieldwise.Proofs.Type.Derivation
import Fieldwise.Proofs.Type.RoundTrip
import Fieldwise.Shape
import Mathlib.Data.List.DropRight
import Mathlib.Logic.Equiv.Basic

/-! # Types under two markers

Two markers are exchanged in a type by exchanging their names. That loses nothing, and it keeps
shapes if every name of the type is the marker itself or ends in a segment in which neither marker
ends (`MarkedBy.shape_exchange`). What a derivation means under one marker is then what it means
under the other, with the two exchanged (`UnionTree.meaning_exchanged`). -/

namespace Fieldwise

/-! ## Last segments -/

namespace Token

/-- Only what follows the last point counts for the last segment. -/
theorem lastPart_append (before after : List Char) :
    (before ++ '.' :: after).rtakeWhile (· != '.') = after.rtakeWhile (· != '.') := by
  rw [List.rtakeWhile, List.reverse_append, List.reverse_cons, List.append_assoc,
    List.takeWhile_append]
  split
  · rename_i whole
    rw [List.rtakeWhile, List.IsPrefix.eq_of_length (List.takeWhile_prefix _) whole]
    simp
  · rfl

/-- The last segment of a dotted name is a segment. -/
theorem DottedName.lastPart {chars : List Char} (dotted : DottedName chars) :
    ∃ first rest, chars.rtakeWhile (· != '.') = first :: rest ∧ isNameStart first ∧
      ∀ char ∈ rest, isNamePart char := by
  induction dotted with
  | @segment first rest start parts =>
    refine ⟨first, rest, ?_, start, parts⟩
    rw [List.rtakeWhile_eq_self_iff]
    have noPoint {char : Char} (part : isNamePart char) : (char != '.') = true := by
      rw [bne_iff_ne]
      rintro rfl
      exact absurd part (by decide)
    exact List.forall_mem_cons.2 ⟨noPoint (isNamePart_of_isNameStart start),
      fun char member => noPoint (parts char member)⟩
  | dotted _ _ _ ih =>
    rw [lastPart_append]
    exact ih

theorem Number.not_nameStart {chars : List Char} (number : Number chars) :
    ∀ char ∈ chars, isNameStart char = false := by
  cases number with
  | whole _ digits => exact fun char member => not_isNameStart_of_isDigit (digits char member)
  | decimal _ digits _ fraction =>
    refine List.forall_mem_append.2
      ⟨fun char member => not_isNameStart_of_isDigit (digits char member), ?_⟩
    exact List.forall_mem_cons.2
      ⟨by decide, fun char member => not_isNameStart_of_isDigit (fraction char member)⟩

/-- What a literal ends in is no segment of a name: it holds a quote or no letter. -/
theorem Literal.lastPart_ne {chars : List Char} (literal : Literal chars) {first : Char}
    {rest : List Char} (start : isNameStart first) (parts : ∀ char ∈ rest, isNamePart char) :
    chars.rtakeWhile (· != '.') ≠ first :: rest := by
  intro same
  have inside : first ∈ chars :=
    (List.rtakeWhile_suffix _ chars).subset (same ▸ List.mem_cons_self)
  have absent (none : ∀ char ∈ chars, isNameStart char = false) : False := by
    rw [none first inside] at start
    cases start
  cases literal with
  | @quoted quote content isQuote _ =>
    -- Whatever points the content holds, the closing quote comes after the last of them.
    have quoteStays : (quote != '.') = true ∧ isNamePart quote = false := by
      rcases isQuote with rfl | rfl <;> decide
    rw [List.rtakeWhile_concat_pos (· != '.') _ _ quoteStays.1] at same
    have member : quote ∈ first :: rest := by
      rw [← same]
      exact List.mem_append_right _ (List.mem_singleton_self quote)
    have allParts : ∀ char ∈ first :: rest, isNamePart char :=
      List.forall_mem_cons.2 ⟨isNamePart_of_isNameStart start, parts⟩
    have part := allParts quote member
    rw [quoteStays.2] at part
    cases part
  | number number => exact absent number.not_nameStart
  | negative number => exact absent (List.forall_mem_cons.2 ⟨by decide, number.not_nameStart⟩)
  | points => exact absent (List.forall_mem_replicate (n := 3).2 (.inr (by decide)))

end Token

namespace TypeExpr

theorem lastSegment_ne_of_literal {name marker : String} (literal : Token.Literal name.toList)
    (dotted : Token.DottedName marker.toList) : lastSegment name ≠ lastSegment marker := by
  obtain ⟨first, rest, segment, start, parts⟩ := dotted.lastPart
  intro same
  have sameParts : name.toList.rtakeWhile (· != '.') = marker.toList.rtakeWhile (· != '.') :=
    String.ofList_injective same
  exact literal.lastPart_ne start parts (sameParts.trans segment)

/-- A name that can stand for the optional marker: it is a dotted name and does not end like the
types that alternatives mean under every marker. -/
structure IsMarker (marker : String) : Prop where
  dotted : Token.DottedName marker.toList
  notUnion : lastSegment marker ≠ "Union"
  notNone : lastSegment marker ≠ "None"

/-! ## Exchanging two markers -/

mutual

def exchange (first second : String) : TypeExpr → TypeExpr
  | mk name arguments => mk (Equiv.swap first second name) (exchangeAll first second arguments)

def exchangeAll (first second : String) : List TypeExpr → List TypeExpr
  | [] => []
  | type :: rest => exchange first second type :: exchangeAll first second rest

end

variable {first second : String}

theorem exchangeAll_eq_map (types : List TypeExpr) :
    exchangeAll first second types = types.map (exchange first second) := by
  induction types with
  | nil => rfl
  | cons type rest ih => rw [exchangeAll, ih, List.map_cons]

mutual

theorem exchange_exchange : (type : TypeExpr) →
    exchange first second (exchange first second type) = type
  | mk name arguments => by
    rw [exchange, exchange, Equiv.swap_apply_self, exchangeAll_exchangeAll arguments]

theorem exchangeAll_exchangeAll : (types : List TypeExpr) →
    exchangeAll first second (exchangeAll first second types) = types
  | [] => rfl
  | type :: rest => by
    rw [exchangeAll, exchangeAll, exchange_exchange type, exchangeAll_exchangeAll rest]

end

/-- Types differ exactly if they do after the exchange. -/
theorem exchange_injective : Function.Injective (exchange first second) :=
  Function.LeftInverse.injective exchange_exchange

/-- A name that ends like neither of two markers. -/
def Apart (first second name : String) : Prop :=
  lastSegment name ≠ lastSegment first ∧ lastSegment name ≠ lastSegment second

theorem Apart.swap {name : String} (apart : Apart first second name) :
    Equiv.swap first second name = name := by
  apply Equiv.swap_apply_of_ne_of_ne
  · rintro rfl
    exact apart.1 rfl
  · rintro rfl
    exact apart.2 rfl

/-- A type that takes its optional marker from the first name: all its other names end like neither
of the two. -/
inductive MarkedBy (first second : String) : TypeExpr → Prop
  | mk {name : String} {arguments : List TypeExpr} (outer : name = first ∨ Apart first second name)
      (inner : ∀ argument ∈ arguments, MarkedBy first second argument) :
      MarkedBy first second (.mk name arguments)

/-- A name ends like the second marker after the exchange if it did like the first before. -/
theorem lastSegment_swap_eq_iff {name : String} (outer : name = first ∨ Apart first second name) :
    lastSegment (Equiv.swap first second name) = lastSegment second ↔
      lastSegment name = lastSegment first := by
  rcases outer with rfl | apart
  · rw [Equiv.swap_apply_left]
    exact iff_of_true rfl rfl
  · rw [apart.swap]
    exact iff_of_false apart.2 apart.1

end TypeExpr

/-- A token that is taken for neither of two markers. -/
def Token.Apart (first second : String) : Token → Prop
  | .word name => TypeExpr.Apart first second name
  | .mark _ => True

def Shape.exchange (first second : String) (shape : Shape) : Shape :=
  ⟨shape.optional, shape.inner.exchange first second⟩

namespace TypeExpr

variable {first second : String}

/-- The exchange of the markers turns the shape under the first into the shape under the second. -/
theorem MarkedBy.shape_exchange {type : TypeExpr} (marked : type.MarkedBy first second) :
    (type.exchange first second).shape second = (type.shape first).exchange first second := by
  obtain @⟨name, arguments, outer, inner⟩ := marked
  have sameHead := lastSegment_swap_eq_iff outer
  match arguments with
  | [] => rfl
  | [inner] =>
    by_cases isMarker : lastSegment name = lastSegment first
    · simp [exchange, exchangeAll, shape, TypeExpr.arguments, TypeExpr.name, head, Shape.exchange,
        sameHead, isMarker]
    · simp [exchange, exchangeAll, shape, TypeExpr.arguments, TypeExpr.name, head, Shape.exchange,
        sameHead, isMarker]
  | _ :: _ :: _ => rfl

/-! ## Derivations under two markers -/

/-- The second type is the first one with the markers exchanged. -/
def Exchanged (first second : String) (type other : TypeExpr) : Prop :=
  type.MarkedBy first second ∧ type.exchange first second = other

/-- Arguments are exchanged below a name that is no marker. -/
theorem exchanged_apart {name : String} (apart : Apart first second name)
    {arguments others : List TypeExpr}
    (inner : List.Forall₂ (Exchanged first second) arguments others) :
    Exchanged first second (mk name arguments) (mk name others) := by
  obtain ⟨marked, rfl⟩ := forall₂_and_eq_iff.1 inner
  exact ⟨.mk (.inr apart) marked, by rw [exchange, apart.swap, exchangeAll_eq_map]⟩

/-- The argument is exchanged below the marker, and so is the marker. -/
theorem exchanged_marker {type other : TypeExpr} (inner : Exchanged first second type other) :
    Exchanged first second (mk first [type]) (mk second [other]) := by
  obtain ⟨marked, rfl⟩ := inner
  exact ⟨.mk (.inl rfl) (List.forall_mem_singleton.2 marked),
    by rw [exchange, Equiv.swap_apply_left, exchangeAll, exchangeAll]⟩

theorem Exchanged.eq_iff {type type' other other' : TypeExpr}
    (same : Exchanged first second type other) (same' : Exchanged first second type' other') :
    type = type' ↔ other = other' := by
  rw [← same.2, ← same'.2, exchange_injective.eq_iff]

section

variable (isFirst : IsMarker first) (isSecond : IsMarker second)

include isFirst isSecond

/-- The names that alternatives mean under every marker are no markers. -/
theorem apart_of_isMarker : Apart first second "Union" ∧ Apart first second "None" := by
  have union : lastSegment "Union" = "Union" := by decide
  have none : lastSegment "None" = "None" := by decide
  rw [Apart, Apart, union, none]
  exact ⟨⟨isFirst.notUnion.symm, isSecond.notUnion.symm⟩,
    isFirst.notNone.symm, isSecond.notNone.symm⟩

/-- Alternatives of exchanged types mean exchanged types. -/
theorem exchanged_alternativesMeaning {members others : List TypeExpr}
    (each : List.Forall₂ (Exchanged first second) members others) :
    Exchanged first second (alternativesMeaning first members)
      (alternativesMeaning second others) := by
  obtain ⟨unionApart, noneApart⟩ := apart_of_isMarker isFirst isSecond
  -- The absent value is its own exchange, so both sides find it at the same place.
  have none_same : Exchanged first second none none := exchanged_apart noneApart .nil
  have union := exchanged_apart unionApart each
  match each with
  | .nil => exact union
  | .cons single .nil => exact single
  | .cons one (.cons two .nil) =>
    rw [alternativesMeaning, alternativesMeaning, strip_of_dottedName isFirst.dotted,
      strip_of_dottedName isSecond.dotted]
    simp only [ne_eq, one.eq_iff none_same, two.eq_iff none_same]
    split
    · exact exchanged_marker two
    · split
      · exact exchanged_marker one
      · exact union
  | .cons _ (.cons _ (.cons _ _)) => exact union

end

mutual

theorem AtomTree.meaning_exchanged (isFirst : IsMarker first) (isSecond : IsMarker second) :
    (tree : AtomTree) → (∀ token ∈ tree.tokens, token.Apart first second) →
      Exchanged first second (tree.meaning first) (tree.meaning second)
  | .bare name, apart => exchanged_apart (apart (.word name) List.mem_cons_self) .nil
  | .brackets name, apart => exchanged_apart (apart (.word name) List.mem_cons_self) .nil
  | .applied name arguments, apart => by
    rw [AtomTree.tokens, List.forall_mem_append, List.forall_mem_cons, List.forall_mem_cons]
      at apart
    exact exchanged_apart apart.1.1 (arguments.meanings_exchanged isFirst isSecond apart.1.2.2)

theorem ArgumentTrees.meanings_exchanged (isFirst : IsMarker first) (isSecond : IsMarker second) :
    (trees : ArgumentTrees) → (∀ token ∈ trees.tokens, token.Apart first second) →
      List.Forall₂ (Exchanged first second) (trees.meanings first) (trees.meanings second)
  | .last argument, apart =>
    .cons (exchanged_alternativesMeaning isFirst isSecond
      (argument.members_exchanged isFirst isSecond apart)) .nil
  | .more argument others, apart => by
    rw [ArgumentTrees.tokens, List.forall_mem_append, List.forall_mem_cons] at apart
    exact .cons (exchanged_alternativesMeaning isFirst isSecond
      (argument.members_exchanged isFirst isSecond apart.1))
      (others.meanings_exchanged isFirst isSecond apart.2.2)

theorem UnionTree.members_exchanged (isFirst : IsMarker first) (isSecond : IsMarker second) :
    (tree : UnionTree) → (∀ token ∈ tree.tokens, token.Apart first second) →
      List.Forall₂ (Exchanged first second) (tree.members first) (tree.members second)
  | .last member, apart => .cons (member.meaning_exchanged isFirst isSecond apart) .nil
  | .more member others, apart => by
    rw [UnionTree.tokens, List.forall_mem_append, List.forall_mem_cons] at apart
    exact .cons (member.meaning_exchanged isFirst isSecond apart.1)
      (others.members_exchanged isFirst isSecond apart.2.2)

end

/-- A derivation means exchanged types under two markers that none of its words is taken for. -/
theorem UnionTree.meaning_exchanged (isFirst : IsMarker first) (isSecond : IsMarker second)
    (tree : UnionTree) (apart : ∀ token ∈ tree.tokens, token.Apart first second) :
    Exchanged first second (tree.meaning first) (tree.meaning second) :=
  exchanged_alternativesMeaning isFirst isSecond (tree.members_exchanged isFirst isSecond apart)

/-! ## Texts under two markers -/

/-- A dotted name is among the words of a text. -/
def WritesName (text name : String) : Prop :=
  ∃ tokens, Token.scan text = .ok tokens ∧ .word name ∈ tokens ∧ Token.DottedName name.toList

theorem exists_tree_of_read {marker text : String} {type : TypeExpr}
    (found : read marker text = .ok type) :
    ∃ tree : UnionTree, Token.scan text = .ok tree.tokens := by
  obtain ⟨tokens, scanned, derived⟩ := derives_of_read found
  obtain ⟨tree, rfl⟩ := exists_unionTree derived
  exact ⟨tree, scanned⟩

/-- A text that is read under some marker is read under every marker that is not blank. -/
theorem alike_read {marker : String} (visible : Text.isBlankText marker = false)
    (other text : String) :
    Alike False (fun _ _ => True) (read other text) (read marker text) := by
  refine .of_ok fun type found => ?_
  obtain ⟨tree, scanned⟩ := exists_tree_of_read found
  exact ⟨_, read_of_derives scanned (tree.derives visible), trivial⟩

/-- The words of a text are taken for neither of two markers if its names are not. -/
theorem tokens_apart (isFirst : IsMarker first) (isSecond : IsMarker second) {text : String}
    {tokens : List Token} (scanned : Token.scan text = .ok tokens)
    (names : ∀ name, WritesName text name → Apart first second name) :
    ∀ token ∈ tokens, token.Apart first second := by
  rintro (name | _) member
  · cases Token.word_of_mem_scan scanned member with
    | name dotted => exact names name ⟨tokens, scanned, member, dotted⟩
    | literal literal =>
      exact ⟨lastSegment_ne_of_literal literal isFirst.dotted,
        lastSegment_ne_of_literal literal isSecond.dotted⟩
  · trivial

/-- A text is read as one type under two markers, up to the exchange of the two, if none of its
names is taken for one of them. -/
theorem alike_read_exchanged (isFirst : IsMarker first) (isSecond : IsMarker second) {text : String}
    (names : ∀ name, WritesName text name → Apart first second name) :
    Alike False (Exchanged first second) (read first text) (read second text) := by
  refine .of_ok fun type found => ?_
  obtain ⟨tree, scanned⟩ := exists_tree_of_read found
  rw [read_of_derives scanned (tree.derives (visible_of_dottedName isFirst.dotted))] at found
  cases found
  exact ⟨_, read_of_derives scanned (tree.derives (visible_of_dottedName isSecond.dotted)),
    tree.meaning_exchanged isFirst isSecond (tokens_apart isFirst isSecond scanned names)⟩

end TypeExpr

end Fieldwise
