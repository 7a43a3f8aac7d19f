import Fieldwise.Proofs.Text.Trimmed
import Fieldwise.Proofs.Type.Grammar
import Fieldwise.Proofs.Type.Scanning

/-! # Types and their texts

A type is canonical if all its names are words in normal form. What is read is canonical, and a
canonical type is read back from its text under any marker, because the text holds no alternatives.
The text is scanned into `TypeExpr.tokens`, and these derive the type. -/

namespace Fieldwise.TypeExpr

/-- A type of which every name is a word in normal form. -/
inductive Canonical : TypeExpr → Prop
  | mk {name : String} {arguments : List TypeExpr} (word : Token.Word name.toList)
      (inner : ∀ argument ∈ arguments, Canonical argument) : Canonical (.mk name arguments)

mutual

/-- The tokens of the canonical text of a type. -/
def tokens : TypeExpr → List Token
  | mk name [] => [.word name]
  | mk name (first :: rest) =>
    .word name :: .mark .openBracket :: argumentTokens (first :: rest) ++ [.mark .closeBracket]

def argumentTokens : List TypeExpr → List Token
  | [] => []
  | [last] => tokens last
  | first :: next :: rest => tokens first ++ .mark .comma :: argumentTokens (next :: rest)

end

variable {marker : String}

/-! ## The tokens derive the type -/

mutual

theorem derivesAtom_tokens : (type : TypeExpr) → DerivesAtom marker type.tokens type
  | mk name [] => .bare name
  | mk name (first :: rest) =>
    .applied name (derivesArguments_tokens (first :: rest) (List.cons_ne_nil _ _))

theorem derivesArguments_tokens : (arguments : List TypeExpr) → arguments ≠ [] →
    DerivesArguments marker (argumentTokens arguments) arguments
  | [], none => absurd rfl none
  | [last], _ => .last (.intro (.last (derivesAtom_tokens last)) rfl)
  | first :: next :: rest, _ =>
    .more (.intro (.last (derivesAtom_tokens first)) rfl)
      (derivesArguments_tokens (next :: rest) (List.cons_ne_nil _ _))

end

/-- The tokens of a type derive it under every marker, since they hold no alternatives. -/
theorem derives_tokens (type : TypeExpr) : DerivesUnion marker type.tokens type :=
  .intro (.last (derivesAtom_tokens type)) rfl

/-! ## Scanning the text of a type -/

/-- The texts of arguments with commas between them. -/
def joined (arguments : List TypeExpr) : List Char :=
  [',', ' '].intercalate ((renderAll arguments).map String.toList)

theorem toList_render_applied (name : String) (first : TypeExpr) (rest : List TypeExpr) :
    (mk name (first :: rest)).render.toList = name.toList ++
      Mark.openBracket.char :: (joined (first :: rest) ++ [Mark.closeBracket.char]) := by
  simp [render, joined, String.toList_intercalate, Mark.char]

theorem joined_singleton (last : TypeExpr) : joined [last] = last.render.toList := by
  simp [joined, renderAll]

theorem joined_cons (first next : TypeExpr) (rest : List TypeExpr) :
    joined (first :: next :: rest) =
      first.render.toList ++ ([] ++ Mark.comma.char :: ' ' :: joined (next :: rest)) := by
  simp [joined, renderAll, List.intercalate_cons_cons, Mark.char]

/-- Arguments are spelled one by one if each of them is. -/
theorem spells_joined {arguments : List TypeExpr} (some_argument : arguments ≠ [])
    (spells : ∀ argument ∈ arguments, Token.Spells argument.render.toList argument.tokens) :
    Token.Spells (joined arguments) (argumentTokens arguments) := by
  induction arguments with
  | nil => exact absurd rfl some_argument
  | cons first others ih =>
    obtain ⟨spellsFirst, spellsOthers⟩ := List.forall_mem_cons.1 spells
    cases others with
    | nil =>
      rw [joined_singleton]
      exact spellsFirst
    | cons next rest =>
      rw [joined_cons, argumentTokens]
      exact spellsFirst.separated (List.forall_mem_nil _) .comma
        (ih (List.cons_ne_nil _ _) spellsOthers)

/-- The text of a canonical type spells the tokens of the type. -/
theorem Canonical.spells {type : TypeExpr} (canonical : type.Canonical) :
    Token.Spells type.render.toList type.tokens := by
  induction canonical with
  | @mk name arguments word _ ih =>
    cases arguments with
    | nil =>
      rw [render, tokens]
      exact .word word
    | cons first rest =>
      rw [toList_render_applied, tokens]
      exact .applied word (spells_joined (List.cons_ne_nil first rest) ih) (List.forall_mem_nil _)

/-- A canonical type is read back from its text. -/
theorem Canonical.read_render {type : TypeExpr} (canonical : type.Canonical) (marker : String) :
    read marker type.render = .ok type :=
  read_of_derives canonical.spells.scan (derives_tokens type)

/-! ## What is read is canonical -/

theorem strip_of_dottedName (dotted : Token.DottedName marker.toList) :
    Text.strip marker = marker :=
  Token.strip_word (.name dotted)

theorem visible_of_dottedName (dotted : Token.DottedName marker.toList) :
    Text.isBlankText marker = false := by
  obtain ⟨first, rest, whole⟩ := List.exists_cons_of_ne_nil dotted.ne_nil
  have firstSeen := dotted.not_blank first (by simp [whole])
  simp [Text.isBlankText, whole, firstSeen]

/-- A name without blanks around it is taken as it is. -/
theorem named?_of_isTrimmed {name : String} (trimmed : Text.IsTrimmed name)
    (arguments : List TypeExpr) : named? name arguments = some (mk name arguments) := by
  rw [named?, trimmed.visible, trimmed.strip_eq]
  rfl

theorem isTrimmed_of_dottedName (dotted : Token.DottedName marker.toList) :
    Text.IsTrimmed marker :=
  ⟨visible_of_dottedName dotted, strip_of_dottedName dotted⟩

theorem dottedName_defaultMarker : Token.DottedName defaultMarker.toList :=
  .segment (by decide) (List.all_eq_true.1 (by decide))

/-- Alternatives of canonical types mean a canonical type. -/
theorem canonical_of_ofAlternatives (dotted : Token.DottedName marker.toList)
    {members : List TypeExpr} (canonical : ∀ member ∈ members, member.Canonical) {type : TypeExpr}
    (meaning : ofAlternatives marker members = .ok type) : type.Canonical := by
  have union : Token.Word "Union".toList :=
    .name (.segment (by decide) (List.all_eq_true.1 (by decide)))
  unfold ofAlternatives at meaning
  split at meaning
  · cases meaning
    exact canonical _ List.mem_cons_self
  · dsimp only at meaning
    split at meaning
    · rename_i inner _ present
      rw [optionalOf?, named?_of_isTrimmed (isTrimmed_of_dottedName dotted)] at meaning
      cases meaning
      have member : inner ∈ members :=
        List.mem_of_mem_filter (present ▸ List.mem_singleton_self inner)
      refine .mk (.name dotted) fun argument same => ?_
      rw [List.mem_singleton.1 same]
      exact canonical inner member
    · cases meaning
      exact .mk union canonical

/-- Every word among some tokens is in normal form. -/
def Normal (tokens : List Token) : Prop :=
  ∀ name, .word name ∈ tokens → Token.Word name.toList

theorem Normal.append {before after : List Token} :
    Normal (before ++ after) ↔ Normal before ∧ Normal after := by
  simp only [Normal, List.mem_append, or_imp, forall_and]

theorem Normal.mark_cons {mark : Mark} {tokens : List Token}
    (normal : Normal (.mark mark :: tokens)) : Normal tokens :=
  fun name member => normal name (List.mem_cons_of_mem _ member)

mutual

theorem canonical_of_derivesAtom (dotted : Token.DottedName marker.toList) {tokens : List Token}
    {type : TypeExpr} (normal : Normal tokens) :
    DerivesAtom marker tokens type → type.Canonical
  | .bare name => .mk (normal name (by simp)) (List.forall_mem_nil _)
  | .brackets name => .mk (normal name (by simp)) (List.forall_mem_nil _)
  | .applied name inner => by
    have normalInner := fun word member =>
      normal word (List.mem_cons_of_mem _ (List.mem_cons_of_mem _ (List.mem_append_left _ member)))
    exact .mk (normal name (by simp)) (canonical_of_derivesArguments dotted normalInner inner)

theorem canonical_of_derivesArguments (dotted : Token.DottedName marker.toList)
    {tokens : List Token} {types : List TypeExpr} (normal : Normal tokens) :
    DerivesArguments marker tokens types → ∀ type ∈ types, type.Canonical
  | .last first => List.forall_mem_singleton.2 (canonical_of_derivesUnion dotted normal first)
  | .more first others => by
    obtain ⟨normalFirst, normalOthers⟩ := Normal.append.1 normal
    exact List.forall_mem_cons.2 ⟨canonical_of_derivesUnion dotted normalFirst first,
      canonical_of_derivesArguments dotted normalOthers.mark_cons others⟩

theorem canonical_of_derivesMembers (dotted : Token.DottedName marker.toList)
    {tokens : List Token} {types : List TypeExpr} (normal : Normal tokens) :
    DerivesMembers marker tokens types → ∀ type ∈ types, type.Canonical
  | .last first => List.forall_mem_singleton.2 (canonical_of_derivesAtom dotted normal first)
  | .more first others => by
    obtain ⟨normalFirst, normalOthers⟩ := Normal.append.1 normal
    exact List.forall_mem_cons.2 ⟨canonical_of_derivesAtom dotted normalFirst first,
      canonical_of_derivesMembers dotted normalOthers.mark_cons others⟩

/-- Tokens whose words are in normal form derive canonical types only. -/
theorem canonical_of_derivesUnion (dotted : Token.DottedName marker.toList) {tokens : List Token}
    {type : TypeExpr} (normal : Normal tokens) :
    DerivesUnion marker tokens type → type.Canonical
  | .intro alternatives meaning =>
    canonical_of_ofAlternatives dotted (canonical_of_derivesMembers dotted normal alternatives)
      meaning

end

/-- What is read under a dotted marker is canonical. -/
theorem canonical_of_read (dotted : Token.DottedName marker.toList) {text : String}
    {type : TypeExpr} (found : read marker text = .ok type) : type.Canonical := by
  obtain ⟨tokens, scanned, derived⟩ := derives_of_read found
  exact canonical_of_derivesUnion dotted (fun name => Token.word_of_mem_scan scanned) derived

/-- Reading yields canonical types; among all types the canonical ones are those that are read back
from their texts. So no two of them have one text, and a type that is read under one marker is read
back unchanged under every other. -/
theorem read_render_canonical (marker : String) (dotted : Token.DottedName marker.toList) :
    (∀ (text : String) (type : TypeExpr), read marker text = .ok type → type.Canonical) ∧
      (∀ type : TypeExpr, read marker type.render = .ok type ↔ type.Canonical) ∧
      (∀ first second : TypeExpr, first.Canonical → second.Canonical →
        first.render = second.render → first = second) ∧
      ∀ (other text : String) (type : TypeExpr), read marker text = .ok type →
        read other type.render = .ok type := by
  refine ⟨fun text type => canonical_of_read dotted, fun type => ?_, ?_, ?_⟩
  · exact ⟨canonical_of_read dotted, fun canonical => canonical.read_render marker⟩
  · intro first second firstCanonical secondCanonical same
    have firstRead := firstCanonical.read_render marker
    rw [same, secondCanonical.read_render marker] at firstRead
    exact (Except.ok.inj firstRead).symm
  · intro other text type found
    exact (canonical_of_read dotted found).read_render other

/-- The comma in the quoted literal separates no arguments. -/
theorem read_render_typing_optional : Token.DottedName "typing.Optional".toList ∧
    read "typing.Optional" "dict[str, 'a, b']" =
      .ok (mk "dict" [bare "str", bare "'a, b'"]) := by
  have dotted : Token.DottedName ("typing".toList ++ '.' :: "Optional".toList) :=
    .dotted (by decide) (List.all_eq_true.1 (by decide))
      (.segment (by decide) (List.all_eq_true.1 (by decide)))
  have str : Canonical (bare "str") :=
    .mk (.name (.segment (by decide) (List.all_eq_true.1 (by decide)))) (List.forall_mem_nil _)
  have quoted : Token.Literal ('\'' :: "a, b".toList ++ ['\'']) := .quoted (.inl rfl) (by decide)
  have literal : Canonical (bare "'a, b'") := .mk (.literal quoted) (List.forall_mem_nil _)
  have dict : Canonical (mk "dict" [bare "str", bare "'a, b'"]) :=
    .mk (.name (.segment (by decide) (List.all_eq_true.1 (by decide))))
      (List.forall_mem_cons.2 ⟨str, List.forall_mem_singleton.2 literal⟩)
  have text : render (mk "dict" [bare "str", bare "'a, b'"]) = "dict[str, 'a, b']" := by decide
  rw [← text]
  exact ⟨dotted, ((read_render_canonical "typing.Optional" dotted).2.1 _).2 dict⟩

end Fieldwise.TypeExpr
