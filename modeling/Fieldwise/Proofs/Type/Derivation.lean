import Fieldwise.Proofs.Type.Grammar
import Fieldwise.Proofs.Validation

/-! # Derivations of type texts

A derivation is a tree over the grammar of type texts: alternatives separated by bars, each a word,
a word with empty brackets, or a word with arguments. It spells tokens and means a type. No two
derivations spell the same tokens (`UnionTree.eq_of_tokens_eq`), and a text is read exactly if its
tokens are spelled by one, as the type that the derivation means (`read_derivation`). -/

namespace Fieldwise.TypeExpr

open Token

mutual

/-- A word, a word with empty brackets, or a word with arguments. -/
inductive AtomTree where
  | bare (name : String)
  | brackets (name : String)
  | applied (name : String) (arguments : ArgumentTrees)

/-- One or more arguments. -/
inductive ArgumentTrees where
  | last (first : UnionTree)
  | more (first : UnionTree) (others : ArgumentTrees)

/-- One or more alternatives. -/
inductive UnionTree where
  | last (first : AtomTree)
  | more (first : AtomTree) (others : UnionTree)

end

mutual

/-- The tokens that a word with its arguments spells. -/
def AtomTree.tokens : AtomTree → List Token
  | .bare name => [word name]
  | .brackets name => [word name, mark .openBracket, mark .closeBracket]
  | .applied name arguments =>
    word name :: mark .openBracket :: arguments.tokens ++ [mark .closeBracket]

/-- Arguments are separated by commas. -/
def ArgumentTrees.tokens : ArgumentTrees → List Token
  | .last first => first.tokens
  | .more first others => first.tokens ++ mark .comma :: others.tokens

/-- Alternatives are separated by bars. -/
def UnionTree.tokens : UnionTree → List Token
  | .last first => first.tokens
  | .more first others => first.tokens ++ mark .bar :: others.tokens

end

/-- What alternatives mean: a single one is itself, the one beside the absent value is optional, all
others form a union. The marker names a type, so blanks around it do not count. -/
def alternativesMeaning (marker : String) : List TypeExpr → TypeExpr
  | [single] => single
  | [first, second] =>
    if first = none ∧ second ≠ none then mk (Text.strip marker) [second]
    else if first ≠ none ∧ second = none then mk (Text.strip marker) [first]
    else mk "Union" [first, second]
  | members => mk "Union" members

mutual

/-- Empty brackets mean no arguments. -/
def AtomTree.meaning (marker : String) : AtomTree → TypeExpr
  | .bare name => TypeExpr.bare name
  | .brackets name => TypeExpr.bare name
  | .applied name arguments => mk name (arguments.meanings marker)

def ArgumentTrees.meanings (marker : String) : ArgumentTrees → List TypeExpr
  | .last first => [alternativesMeaning marker (first.members marker)]
  | .more first others =>
    alternativesMeaning marker (first.members marker) :: others.meanings marker

def UnionTree.members (marker : String) : UnionTree → List TypeExpr
  | .last first => [first.meaning marker]
  | .more first others => first.meaning marker :: others.members marker

end

def UnionTree.meaning (marker : String) (tree : UnionTree) : TypeExpr :=
  alternativesMeaning marker (tree.members marker)

variable {marker : String}

/-! ## Derivations are unique -/

theorem AtomTree.tokens_eq_cons (tree : AtomTree) :
    ∃ name rest, tree.tokens = word name :: rest := by
  cases tree with
  | bare name => exact ⟨name, [], rfl⟩
  | brackets name => exact ⟨name, _, rfl⟩
  | applied name arguments => exact ⟨name, _, rfl⟩

theorem UnionTree.tokens_eq_cons (tree : UnionTree) :
    ∃ name rest, tree.tokens = word name :: rest := by
  cases tree with
  | last first => exact first.tokens_eq_cons
  | more first others =>
    obtain ⟨name, rest, same⟩ := first.tokens_eq_cons
    exact ⟨name, rest ++ mark .bar :: others.tokens, by rw [tokens, same, List.cons_append]⟩

/-- Arguments begin with a word, so they are not mistaken for empty brackets. -/
theorem ArgumentTrees.tokens_eq_cons (trees : ArgumentTrees) :
    ∃ name rest, trees.tokens = word name :: rest := by
  cases trees with
  | last first => exact first.tokens_eq_cons
  | more first others =>
    obtain ⟨name, rest, same⟩ := first.tokens_eq_cons
    exact ⟨name, rest ++ mark .comma :: others.tokens, by rw [tokens, same, List.cons_append]⟩

theorem AtomTree.tokens_applied_append (name : String) (arguments : ArgumentTrees)
    (rest : List Token) : (AtomTree.applied name arguments).tokens ++ rest =
      word name :: mark .openBracket :: (arguments.tokens ++ mark .closeBracket :: rest) := by
  simp [tokens]

theorem ArgumentTrees.tokens_more_append (first : UnionTree) (others : ArgumentTrees)
    (rest : List Token) : (ArgumentTrees.more first others).tokens ++ rest =
      first.tokens ++ mark .comma :: (others.tokens ++ rest) := by
  rw [tokens, List.append_assoc, List.cons_append]

theorem UnionTree.tokens_more_append (first : AtomTree) (others : UnionTree)
    (rest : List Token) : (UnionTree.more first others).tokens ++ rest =
      first.tokens ++ mark .bar :: (others.tokens ++ rest) := by
  rw [tokens, List.append_assoc, List.cons_append]

mutual

/-- What spells an atom is determined by the tokens, whatever follows it that does not give it
arguments. -/
theorem AtomTree.eq_of_tokens_append_eq : (first second : AtomTree) → {rest rest' : List Token} →
    EndsAtom rest → EndsAtom rest' → first.tokens ++ rest = second.tokens ++ rest' →
    first = second ∧ rest = rest'
  | .bare name, .bare name', rest, rest', _, _, same => by
    cases same
    exact ⟨rfl, rfl⟩
  | .bare name, .brackets name', rest, rest', ends, _, same => by
    exact absurd (List.cons.inj same).2 (ends _)
  | .bare name, .applied name' arguments, rest, rest', ends, _, same => by
    exact absurd (List.cons.inj same).2 (ends _)
  | .brackets name, .bare name', rest, rest', _, ends, same => by
    exact absurd (List.cons.inj same).2.symm (ends _)
  | .applied name arguments, .bare name', rest, rest', _, ends, same => by
    exact absurd (List.cons.inj same).2.symm (ends _)
  | .brackets name, .brackets name', rest, rest', _, _, same => by
    cases same
    exact ⟨rfl, rfl⟩
  | .brackets name, .applied name' arguments, rest, rest', _, _, same => by
    rw [AtomTree.tokens_applied_append] at same
    obtain ⟨inner, tail, starts⟩ := arguments.tokens_eq_cons
    rw [starts] at same
    cases same
  | .applied name arguments, .brackets name', rest, rest', _, _, same => by
    rw [AtomTree.tokens_applied_append] at same
    obtain ⟨inner, tail, starts⟩ := arguments.tokens_eq_cons
    rw [starts] at same
    cases same
  | .applied name arguments, .applied name' arguments', rest, rest', _, _, same => by
    rw [AtomTree.tokens_applied_append, AtomTree.tokens_applied_append] at same
    obtain ⟨sameName, sameTail⟩ := List.cons.inj same
    have sameTokens := (List.cons.inj sameTail).2
    obtain ⟨sameArguments, sameRest⟩ := arguments.eq_of_tokens_append_eq arguments' sameTokens
    exact ⟨by rw [Token.word.inj sameName, sameArguments], sameRest⟩

/-- Arguments are determined by the tokens up to the bracket that closes them. -/
theorem ArgumentTrees.eq_of_tokens_append_eq : (first second : ArgumentTrees) →
    {rest rest' : List Token} →
    first.tokens ++ mark .closeBracket :: rest = second.tokens ++ mark .closeBracket :: rest' →
    first = second ∧ rest = rest'
  | .last first, .last second, rest, rest', same => by
    obtain ⟨sameFirst, sameRest⟩ := first.eq_of_tokens_append_eq second
      (endsUnion_closeBracket rest) (endsUnion_closeBracket rest') same
    exact ⟨by rw [sameFirst], (List.cons.inj sameRest).2⟩
  | .last first, .more second others, rest, rest', same => by
    rw [ArgumentTrees.tokens_more_append] at same
    have sameRest := (first.eq_of_tokens_append_eq second
      (endsUnion_closeBracket rest) (endsUnion_comma _) same).2
    cases sameRest
  | .more first others, .last second, rest, rest', same => by
    rw [ArgumentTrees.tokens_more_append] at same
    have sameRest := (first.eq_of_tokens_append_eq second
      (endsUnion_comma _) (endsUnion_closeBracket rest') same).2
    cases sameRest
  | .more first others, .more second others', rest, rest', same => by
    rw [ArgumentTrees.tokens_more_append, ArgumentTrees.tokens_more_append] at same
    obtain ⟨sameFirst, sameTail⟩ := first.eq_of_tokens_append_eq second
      (endsUnion_comma _) (endsUnion_comma _) same
    obtain ⟨sameOthers, sameRest⟩ :=
      others.eq_of_tokens_append_eq others' (List.cons.inj sameTail).2
    exact ⟨by rw [sameFirst, sameOthers], sameRest⟩

/-- Alternatives are determined by the tokens, whatever follows them that neither gives the last one
arguments nor adds another one. -/
theorem UnionTree.eq_of_tokens_append_eq : (first second : UnionTree) →
    {rest rest' : List Token} → EndsUnion rest → EndsUnion rest' →
    first.tokens ++ rest = second.tokens ++ rest' → first = second ∧ rest = rest'
  | .last first, .last second, rest, rest', ends, ends', same => by
    obtain ⟨sameFirst, sameRest⟩ := first.eq_of_tokens_append_eq second ends.1 ends'.1 same
    exact ⟨by rw [sameFirst], sameRest⟩
  | .last first, .more second others, rest, rest', ends, _, same => by
    rw [UnionTree.tokens_more_append] at same
    have sameRest := (first.eq_of_tokens_append_eq second ends.1 (endsAtom_bar _) same).2
    exact absurd sameRest (ends.2 _)
  | .more first others, .last second, rest, rest', _, ends, same => by
    rw [UnionTree.tokens_more_append] at same
    have sameRest := (first.eq_of_tokens_append_eq second (endsAtom_bar _) ends.1 same).2
    exact absurd sameRest.symm (ends.2 _)
  | .more first others, .more second others', rest, rest', ends, ends', same => by
    rw [UnionTree.tokens_more_append, UnionTree.tokens_more_append] at same
    obtain ⟨sameFirst, sameTail⟩ :=
      first.eq_of_tokens_append_eq second (endsAtom_bar _) (endsAtom_bar _) same
    obtain ⟨sameOthers, sameRest⟩ :=
      others.eq_of_tokens_append_eq others' ends ends' (List.cons.inj sameTail).2
    exact ⟨by rw [sameFirst, sameOthers], sameRest⟩

end

/-- Two derivations of the same tokens are the same. -/
theorem UnionTree.eq_of_tokens_eq {first second : UnionTree}
    (same : first.tokens = second.tokens) : first = second := by
  have appended : first.tokens ++ [] = second.tokens ++ [] := by rw [same]
  exact (first.eq_of_tokens_append_eq second endsUnion_nil endsUnion_nil appended).1

/-! ## Derivations and what they mean -/

/-- Under a marker that is not blank alternatives always mean a type. -/
theorem ofAlternatives_eq (visible : Text.isBlankText marker = false) (members : List TypeExpr) :
    ofAlternatives marker members = .ok (alternativesMeaning marker members) := by
  have optional (inner : TypeExpr) :
      optionalOf? marker inner = some (mk (Text.strip marker) [inner]) := by
    rw [optionalOf?, named?, visible]
    rfl
  match members with
  | [] => rfl
  | [single] => rfl
  | [first, second] =>
    by_cases absent : first = none
    · by_cases absent' : second = none
      · simp [ofAlternatives, alternativesMeaning, absent, absent']
      · simp [ofAlternatives, alternativesMeaning, absent, absent', optional]
    · by_cases absent' : second = none
      · simp [ofAlternatives, alternativesMeaning, absent, absent', optional]
      · simp [ofAlternatives, alternativesMeaning, absent, absent']
  | first :: second :: third :: rest => simp [ofAlternatives, alternativesMeaning]

mutual

theorem AtomTree.derives (visible : Text.isBlankText marker = false) : (tree : AtomTree) →
    DerivesAtom marker tree.tokens (tree.meaning marker)
  | .bare name => .bare name
  | .brackets name => .brackets name
  | .applied name arguments => .applied name (arguments.derives visible)

theorem ArgumentTrees.derives (visible : Text.isBlankText marker = false) :
    (trees : ArgumentTrees) → DerivesArguments marker trees.tokens (trees.meanings marker)
  | .last first => .last (.intro (first.derivesMembers visible) (ofAlternatives_eq visible _))
  | .more first others =>
    .more (.intro (first.derivesMembers visible) (ofAlternatives_eq visible _))
      (others.derives visible)

theorem UnionTree.derivesMembers (visible : Text.isBlankText marker = false) :
    (tree : UnionTree) → DerivesMembers marker tree.tokens (tree.members marker)
  | .last first => .last (first.derives visible)
  | .more first others => .more (first.derives visible) (others.derivesMembers visible)

end

/-- The tokens of a derivation derive its meaning. -/
theorem UnionTree.derives (visible : Text.isBlankText marker = false) (tree : UnionTree) :
    DerivesUnion marker tree.tokens (tree.meaning marker) :=
  .intro (tree.derivesMembers visible) (ofAlternatives_eq visible _)

mutual

theorem exists_atomTree {tokens : List Token} {type : TypeExpr} :
    DerivesAtom marker tokens type → ∃ tree : AtomTree, tree.tokens = tokens
  | .bare name => ⟨.bare name, rfl⟩
  | .brackets name => ⟨.brackets name, rfl⟩
  | .applied name inner => by
    obtain ⟨arguments, rfl⟩ := exists_argumentTrees inner
    exact ⟨.applied name arguments, rfl⟩

theorem exists_argumentTrees {tokens : List Token} {types : List TypeExpr} :
    DerivesArguments marker tokens types → ∃ trees : ArgumentTrees, trees.tokens = tokens
  | .last first => by
    obtain ⟨tree, rfl⟩ := exists_unionTree first
    exact ⟨.last tree, rfl⟩
  | .more first others => by
    obtain ⟨tree, rfl⟩ := exists_unionTree first
    obtain ⟨trees, rfl⟩ := exists_argumentTrees others
    exact ⟨.more tree trees, rfl⟩

theorem exists_unionTree_of_members {tokens : List Token} {types : List TypeExpr} :
    DerivesMembers marker tokens types → ∃ tree : UnionTree, tree.tokens = tokens
  | .last first => by
    obtain ⟨tree, rfl⟩ := exists_atomTree first
    exact ⟨.last tree, rfl⟩
  | .more first others => by
    obtain ⟨tree, rfl⟩ := exists_atomTree first
    obtain ⟨trees, rfl⟩ := exists_unionTree_of_members others
    exact ⟨.more tree trees, rfl⟩

/-- Tokens that derive a type have a derivation. -/
theorem exists_unionTree {tokens : List Token} {type : TypeExpr} :
    DerivesUnion marker tokens type → ∃ tree : UnionTree, tree.tokens = tokens
  | .intro alternatives _ => exists_unionTree_of_members alternatives

end

/-- A text is read exactly if a derivation spells its tokens. There is no other derivation of them
then, and the type is what this one means; all other texts are refused. -/
theorem read_derivation (visible : Text.isBlankText marker = false) (text : String) :
    (∀ offset, Token.scan text = .error offset →
      read marker text = .error (.noToken text offset)) ∧
    ∀ tokens, Token.scan text = .ok tokens →
      ((∃ type, read marker text = .ok type) ↔ ∃ tree : UnionTree, tree.tokens = tokens) ∧
      (∀ tree : UnionTree, tree.tokens = tokens →
        (∀ other : UnionTree, other.tokens = tokens → other = tree) ∧
          read marker text = .ok (tree.meaning marker)) ∧
      ((¬ ∃ tree : UnionTree, tree.tokens = tokens) →
        ∃ error, read marker text = .error error) := by
  constructor
  · intro offset failed
    rw [read, failed]
  · intro tokens scanned
    have accepted : (∃ type, read marker text = .ok type) ↔
        ∃ tree : UnionTree, tree.tokens = tokens := by
      constructor
      · rintro ⟨type, found⟩
        obtain ⟨others, same, derived⟩ := derives_of_read found
        rw [scanned] at same
        cases same
        exact exists_unionTree derived
      · rintro ⟨tree, rfl⟩
        exact ⟨tree.meaning marker, read_of_derives scanned (tree.derives visible)⟩
    refine ⟨accepted, ?_, ?_⟩
    · rintro tree rfl
      exact ⟨fun other same => UnionTree.eq_of_tokens_eq same,
        read_of_derives scanned (tree.derives visible)⟩
    · intro none
      cases result : read marker text with
      | error error => exact ⟨error, rfl⟩
      | ok type => exact absurd (accepted.1 ⟨type, result⟩) none

/-- The bracket in the quoted literal closes nothing, and the blanks around the marker are
dropped. -/
theorem read_derivation_maybe : Text.isBlankText " Maybe " = false ∧
    read " Maybe " "dict[str, ']' | None, x[]] | None" =
      .ok (mk "Maybe" [mk "dict" [bare "str", mk "Maybe" [bare "']'"], bare "x"]]) := by
  have visible : Text.isBlankText " Maybe " = false := by decide
  have scanned : Token.scan "dict[str, ']' | None, x[]] | None" =
      .ok [word "dict", mark .openBracket, word "str", mark .comma, word "']'", mark .bar,
        word "None", mark .comma, word "x", mark .openBracket, mark .closeBracket,
        mark .closeBracket, mark .bar, word "None"] :=
    eq_ok_of_toOption (by decide +kernel)
  let tree : UnionTree :=
    .more (.applied "dict" (.more (.last (.bare "str"))
      (.more (.more (.bare "']'") (.last (.bare "None"))) (.last (.last (.brackets "x"))))))
      (.last (.bare "None"))
  exact ⟨visible, (((read_derivation visible _).2 _ scanned).2.1 tree rfl).2⟩

end Fieldwise.TypeExpr
