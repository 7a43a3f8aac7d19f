import Fieldwise.Type.Reader

/-! # The grammar of type texts

Derivations say which tokens make which type, without saying how the tokens are read. Reading is
sound for them (`derives_of_readUnion`): what it consumes derives the type that it returns. It is
complete (`readUnion_of_derives`): tokens that derive a type are read to their end whatever follows,
unless what follows would continue the type. -/

namespace Fieldwise.TypeExpr

open Token

mutual

/-- A word, a word with empty brackets, or a word with arguments in brackets. -/
inductive DerivesAtom (marker : String) : List Token → TypeExpr → Prop
  | bare (name : String) : DerivesAtom marker [word name] (bare name)
  | brackets (name : String) :
      DerivesAtom marker [word name, mark .openBracket, mark .closeBracket] (bare name)
  | applied (name : String) {tokens : List Token} {arguments : List TypeExpr}
      (inner : DerivesArguments marker tokens arguments) :
      DerivesAtom marker (word name :: mark .openBracket :: tokens ++ [mark .closeBracket])
        (mk name arguments)

/-- Arguments separated by commas. -/
inductive DerivesArguments (marker : String) : List Token → List TypeExpr → Prop
  | last {tokens : List Token} {type : TypeExpr} (first : DerivesUnion marker tokens type) :
      DerivesArguments marker tokens [type]
  | more {tokens rest : List Token} {type : TypeExpr} {types : List TypeExpr}
      (first : DerivesUnion marker tokens type) (others : DerivesArguments marker rest types) :
      DerivesArguments marker (tokens ++ mark .comma :: rest) (type :: types)

/-- Alternatives, each but the first after a bar. -/
inductive DerivesMembers (marker : String) : List Token → List TypeExpr → Prop
  | last {tokens : List Token} {type : TypeExpr} (first : DerivesAtom marker tokens type) :
      DerivesMembers marker tokens [type]
  | more {tokens rest : List Token} {type : TypeExpr} {types : List TypeExpr}
      (first : DerivesAtom marker tokens type) (others : DerivesMembers marker rest types) :
      DerivesMembers marker (tokens ++ mark .bar :: rest) (type :: types)

/-- Alternatives together with what they mean under the marker. -/
inductive DerivesUnion (marker : String) : List Token → TypeExpr → Prop
  | intro {tokens : List Token} {members : List TypeExpr} {type : TypeExpr}
      (alternatives : DerivesMembers marker tokens members)
      (meaning : ofAlternatives marker members = .ok type) : DerivesUnion marker tokens type

end

variable {marker : String}

/-- Alternatives can be added behind others. -/
theorem DerivesMembers.append {tokens more : List Token} {types others : List TypeExpr} :
    DerivesMembers marker tokens types → DerivesMembers marker more others →
      DerivesMembers marker (tokens ++ mark .bar :: more) (types ++ others)
  | .last first, further => .more first further
  | .more first rest, further => by
    rw [List.append_assoc, List.cons_append]
    exact .more first (rest.append further)

/-! ## Soundness -/

mutual

/-- What is read of a union derives its type. -/
theorem derives_of_readUnion {tokens : List Token} {found : Parsed TypeExpr tokens}
    (read : readUnion marker tokens = .ok found) :
    ∃ consumed, tokens = consumed ++ found.rest ∧ DerivesUnion marker consumed found.value := by
  rw [readUnion] at read
  split at read
  · cases read
  · rename_i first firstRead
    split at read
    · cases read
    · rename_i others rest kept othersRead
      split at read
      · cases read
      · rename_i type meaning
        cases read
        have shorter := first.shorter
        obtain ⟨firstTokens, firstSame, atom⟩ := derives_of_readAtom firstRead
        obtain ⟨members, same, derived⟩ := derives_of_readAlternatives atom othersRead
        exact ⟨members, firstSame.trans same, .intro derived meaning⟩
termination_by (tokens.length, 1)

/-- Further alternatives derive together with the one before them. -/
theorem derives_of_readAlternatives {tokens firstTokens : List Token} {first : TypeExpr}
    {found : { found : List TypeExpr × List Token // found.2.length ≤ tokens.length }}
    (atom : DerivesAtom marker firstTokens first)
    (read : readAlternatives marker tokens = .ok found) :
    ∃ consumed, firstTokens ++ tokens = consumed ++ found.1.2 ∧
      DerivesMembers marker consumed (first :: found.1.1) := by
  rw [readAlternatives.eq_def] at read
  split at read
  · rename_i rest
    split at read
    · cases read
    · rename_i next nextRead
      split at read
      · cases read
      · rename_i others tail kept othersRead
        cases read
        have shorter := next.shorter
        obtain ⟨nextTokens, nextSame, nextAtom⟩ := derives_of_readAtom nextRead
        obtain ⟨members, same, derived⟩ := derives_of_readAlternatives nextAtom othersRead
        refine ⟨firstTokens ++ .mark .bar :: members, ?_, .more atom derived⟩
        rw [List.append_assoc, List.cons_append, ← same, ← nextSame]
  · cases read
    exact ⟨firstTokens, rfl, .last atom⟩
termination_by (tokens.length, 0)
decreasing_by
  all_goals subst_vars; exact Prod.Lex.left _ _ (by simp only [List.length_cons]; omega)

/-- What is read of a word with its arguments derives its type. -/
theorem derives_of_readAtom {tokens : List Token} {found : Parsed TypeExpr tokens}
    (read : readAtom marker tokens = .ok found) :
    ∃ consumed, tokens = consumed ++ found.rest ∧ DerivesAtom marker consumed found.value := by
  rw [readAtom.eq_def] at read
  split at read
  · cases read
  · cases read
  · rename_i name rest
    cases read
    exact ⟨_, rfl, .brackets name⟩
  · rename_i name rest _
    split at read
    · cases read
    · rename_i inner innerRead
      cases read
      obtain ⟨arguments, same, derived⟩ := derives_of_readArguments innerRead
      exact ⟨_, by simp [same], .applied name derived⟩
  · rename_i name rest _ _
    cases read
    exact ⟨_, rfl, .bare name⟩
termination_by (tokens.length, 0)
decreasing_by
  all_goals subst_vars; exact Prod.Lex.left _ _ (by simp only [List.length_cons]; omega)

/-- What is read of arguments derives them, with the closing bracket after them. -/
theorem derives_of_readArguments {tokens : List Token} {found : Parsed (List TypeExpr) tokens}
    (read : readArguments marker tokens = .ok found) :
    ∃ consumed, tokens = consumed ++ .mark .closeBracket :: found.rest ∧
      DerivesArguments marker consumed found.value := by
  rw [readArguments] at read
  split at read
  · cases read
  · rename_i first firstRead
    have shorter := first.shorter
    obtain ⟨firstTokens, firstSame, union⟩ := derives_of_readUnion firstRead
    split at read
    · cases read
    · rename_i rest following
      cases read
      exact ⟨firstTokens, by rw [← following, ← firstSame], .last union⟩
    · rename_i rest following
      split at read
      · cases read
      · rename_i others othersRead
        cases read
        have tailShorter : rest.length < tokens.length := by
          rw [following, List.length_cons] at shorter
          omega
        obtain ⟨arguments, same, derived⟩ := derives_of_readArguments othersRead
        refine ⟨firstTokens ++ .mark .comma :: arguments, ?_, .more union derived⟩
        rw [List.append_assoc, List.cons_append, ← same, ← following, ← firstSame]
    · cases read
termination_by (tokens.length, 2)

end

/-- The tokens of a text that is read derive its type. -/
theorem derives_of_read {text : String} {type : TypeExpr} (found : read marker text = .ok type) :
    ∃ tokens, Token.scan text = .ok tokens ∧ DerivesUnion marker tokens type := by
  unfold read at found
  split at found
  · cases found
  · cases found
  · rename_i tokens _ scanned
    split at found
    · cases found
    · rename_i parsed whole
      split at found
      · rename_i empty
        cases found
        obtain ⟨consumed, same, derived⟩ := derives_of_readUnion whole
        rw [List.isEmpty_iff.1 empty, List.append_nil] at same
        exact ⟨tokens, scanned, same ▸ derived⟩
      · cases found

/-! ## Completeness -/

/-- The tokens after an atom do not give it arguments. -/
def EndsAtom (rest : List Token) : Prop :=
  ∀ tail, rest ≠ mark .openBracket :: tail

/-- The tokens after a union neither give its last member arguments nor add a member. -/
def EndsUnion (rest : List Token) : Prop :=
  EndsAtom rest ∧ ∀ tail, rest ≠ mark .bar :: tail

theorem endsAtom_bar (rest : List Token) : EndsAtom (mark .bar :: rest) :=
  nofun

theorem endsUnion_nil : EndsUnion [] :=
  ⟨nofun, nofun⟩

theorem endsUnion_comma (rest : List Token) : EndsUnion (mark .comma :: rest) :=
  ⟨nofun, nofun⟩

theorem endsUnion_closeBracket (rest : List Token) : EndsUnion (mark .closeBracket :: rest) :=
  ⟨nofun, nofun⟩

theorem readAtom_bare (name : String) {rest : List Token} (ends : EndsAtom rest) :
    ∃ shorter, readAtom marker (word name :: rest) = .ok ⟨bare name, rest, shorter⟩ := by
  rw [readAtom]
  · exact ⟨_, rfl⟩
  · exact fun tail same => ends _ same
  · exact fun tail same => ends _ same

theorem readAtom_applied (name : String) {tokens : List Token}
    {inner : Parsed (List TypeExpr) tokens} (read : readArguments marker tokens = .ok inner) :
    ∃ shorter, readAtom marker (word name :: mark .openBracket :: tokens) =
      .ok ⟨mk name inner.value, inner.rest, shorter⟩ := by
  rw [readAtom, read]
  · exact ⟨_, rfl⟩
  · rintro tail rfl
    rw [readArguments, readUnion, readAtom] at read
    cases read

theorem readAlternatives_end {rest : List Token} (ends : EndsUnion rest) :
    readAlternatives marker rest = .ok ⟨([], rest), Nat.le_refl _⟩ := by
  rw [readAlternatives.eq_def]
  split
  · exact absurd rfl (ends.2 _)
  · rfl

theorem readAlternatives_bar {tokens : List Token} {next : Parsed TypeExpr tokens}
    (atom : readAtom marker tokens = .ok next) {others : List TypeExpr} {rest : List Token}
    {kept : rest.length ≤ next.rest.length}
    (further : readAlternatives marker next.rest = .ok ⟨(others, rest), kept⟩) :
    ∃ kept, readAlternatives marker (mark .bar :: tokens) =
      .ok ⟨(next.value :: others, rest), kept⟩ := by
  rw [readAlternatives, atom]
  dsimp only
  rw [further]
  exact ⟨_, rfl⟩

mutual

/-- An atom is read to its end. -/
theorem readAtom_of_derives {tokens : List Token} {type : TypeExpr}
    (derived : DerivesAtom marker tokens type) {rest : List Token} (ends : EndsAtom rest) :
    ∃ shorter, readAtom marker (tokens ++ rest) = .ok ⟨type, rest, shorter⟩ :=
  match derived with
  | .bare name => readAtom_bare name ends
  | .brackets name => by
    rw [List.cons_append, List.cons_append, List.cons_append, List.nil_append, readAtom]
    exact ⟨_, rfl⟩
  | .applied name inner => by
    obtain ⟨_, read⟩ := readArguments_of_derives inner rest
    rw [List.append_assoc, List.cons_append, List.cons_append]
    exact readAtom_applied name read

/-- Arguments are read up to the bracket that closes them. -/
theorem readArguments_of_derives {tokens : List Token} {types : List TypeExpr}
    (derived : DerivesArguments marker tokens types) (rest : List Token) :
    ∃ shorter, readArguments marker (tokens ++ mark .closeBracket :: rest) =
      .ok ⟨types, rest, shorter⟩ :=
  match derived with
  | .last first => by
    obtain ⟨_, read⟩ := readUnion_of_derives first (endsUnion_closeBracket rest)
    rw [readArguments, read]
    exact ⟨_, rfl⟩
  | .more first others => by
    obtain ⟨_, read⟩ := readUnion_of_derives first (endsUnion_comma _)
    obtain ⟨_, readOthers⟩ := readArguments_of_derives others rest
    rw [List.append_assoc, List.cons_append, readArguments, read]
    dsimp only
    rw [readOthers]
    exact ⟨_, rfl⟩

/-- Alternatives are read one by one to the end of the last. -/
theorem readMembers_of_derives {tokens : List Token} {members : List TypeExpr}
    (derived : DerivesMembers marker tokens members) {rest : List Token} (ends : EndsUnion rest) :
    ∃ (first : Parsed TypeExpr (tokens ++ rest)) (others : List TypeExpr) (kept : _),
      readAtom marker (tokens ++ rest) = .ok first ∧
        readAlternatives marker first.rest = .ok ⟨(others, rest), kept⟩ ∧
        members = first.value :: others :=
  match derived with
  | .last atom => by
    obtain ⟨shorter, read⟩ := readAtom_of_derives atom ends.1
    exact ⟨_, [], _, read, readAlternatives_end ends, rfl⟩
  | @DerivesMembers.more _ _ otherTokens _ _ atom others => by
    obtain ⟨next, further, kept, readNext, readFurther, same⟩ := readMembers_of_derives others ends
    obtain ⟨shorter, read⟩ := readAtom_of_derives atom (endsAtom_bar (otherTokens ++ rest))
    obtain ⟨kept, readOthers⟩ := readAlternatives_bar readNext readFurther
    rw [List.append_assoc, List.cons_append]
    exact ⟨_, _, kept, read, readOthers, by rw [same]⟩

/-- A union is read to its end. -/
theorem readUnion_of_derives {tokens : List Token} {type : TypeExpr}
    (derived : DerivesUnion marker tokens type) {rest : List Token} (ends : EndsUnion rest) :
    ∃ shorter, readUnion marker (tokens ++ rest) = .ok ⟨type, rest, shorter⟩ :=
  match derived with
  | .intro alternatives meaning => by
    obtain ⟨first, others, kept, read, readOthers, rfl⟩ := readMembers_of_derives alternatives ends
    rw [readUnion, read]
    dsimp only
    rw [readOthers]
    dsimp only
    rw [meaning]
    exact ⟨_, rfl⟩

end

/-- A text is read as the type that its tokens derive. -/
theorem read_of_derives {text : String} {tokens : List Token} {type : TypeExpr}
    (scanned : Token.scan text = .ok tokens) (derived : DerivesUnion marker tokens type) :
    read marker text = .ok type := by
  have whole := readUnion_of_derives derived endsUnion_nil
  rw [List.append_nil] at whole
  obtain ⟨shorter, whole⟩ := whole
  rw [read, scanned]
  split
  · rename_i failed
    cases failed
  · rename_i empty
    cases empty
    rw [readUnion, readAtom] at whole
    cases whole
  · rename_i found _ same
    cases same
    rw [whole]
    rfl

end Fieldwise.TypeExpr
