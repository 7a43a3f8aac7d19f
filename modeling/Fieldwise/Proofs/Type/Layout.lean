import Fieldwise.Proofs.Type.Derivation
import Fieldwise.Proofs.Type.Fragments
import Mathlib.Data.List.Chain

/-! # Layouts of type texts

Blanks may stand before, between and after the tokens of a type and around the dots of its names.
`Token.Layout` says how some tokens can be written in this way. Two words next to each other could
run into one, but the grammar of types never puts them there. So a text is scanned into the tokens
of a type exactly if it is a layout of them (`Token.scan_eq_ok_iff`), and all layouts are read alike
(`TypeExpr.read_layout`). -/

namespace Fieldwise

namespace Token

/-- A way to write tokens: there may be blanks before, between and after them. -/
inductive Layout : List Token → List Char → Prop
  | blanks {gap : List Char} (blank : ∀ char ∈ gap, Text.isBlank char) : Layout [] gap
  | cons {token : Token} {tokens : List Token} {gap text tail : List Char}
      (blank : ∀ char ∈ gap, Text.isBlank char) (first : TokenLayout token text)
      (others : Layout tokens tail) : Layout (token :: tokens) (gap ++ (text ++ tail))

def isWord : Token → Bool
  | word _ => true
  | mark _ => false

/-- No word stands next to another one. -/
def WordsApart (tokens : List Token) : Prop :=
  tokens.IsChain fun first second => ¬ (first.isWord ∧ second.isWord)

variable {token : Token} {tokens others : List Token} {chars text tail gap rest : List Char}

/-! ## One token -/

/-- Whatever stands around the dots of a name, there is no blank at its ends. -/
theorem NameLayout.visible {name : List Char} (layout : NameLayout name text) :
    (∃ char ∈ text.head?, Text.isBlank char = false) ∧
      ∃ char ∈ text.getLast?, Text.isBlank char = false := by
  have startSeen {char : Char} (start : isNameStart char) : Text.isBlank char = false :=
    not_isBlank_of_isNamePart (isNamePart_of_isNameStart start)
  induction layout with
  | @segment first rest start parts =>
    refine ⟨⟨first, rfl, startSeen start⟩, _, List.getLast?_eq_getLast_of_ne_nil (by simp), ?_⟩
    exact DottedName.not_blank (.segment start parts) _ (List.getLast_mem _)
  | @dotted first rest more before after text start _ _ _ _ ih =>
    obtain ⟨-, char, isLast, seen⟩ := ih
    refine ⟨⟨first, rfl, startSeen start⟩, char, ?_, seen⟩
    rw [List.getLast?_append_of_ne_nil _ (by simp), List.getLast?_append_of_ne_nil _ (by simp),
      ← List.cons_append, List.getLast?_append, Option.mem_def.1 isLast]
    rfl

theorem TokenLayout.visible (layout : TokenLayout token text) :
    (∃ char ∈ text.head?, Text.isBlank char = false) ∧
      ∃ char ∈ text.getLast?, Text.isBlank char = false := by
  cases layout with
  | name layout => exact layout.visible
  | literal literal =>
    have word : Word text := .literal literal
    obtain ⟨head, last⟩ := word.not_blank_ends
    exact ⟨⟨_, List.head?_eq_some_head word.ne_nil, head _ (List.head?_eq_some_head word.ne_nil)⟩,
      _, List.getLast?_eq_getLast_of_ne_nil word.ne_nil,
      last _ (List.getLast?_eq_getLast_of_ne_nil word.ne_nil)⟩
  | mark mark =>
    have noPart := (mark_apart mark).2.2
    exact ⟨⟨mark.char, rfl, noPart⟩, mark.char, rfl, noPart⟩

/-- A token is scanned from any way to write it; a word must end there. -/
theorem TokenLayout.scan (layout : TokenLayout token text) (ends : token.isWord → Ends rest) :
    scanOne? (text ++ rest) = some (token, rest) := by
  cases layout with
  | name layout =>
    obtain ⟨first, nameTail, tail, rfl, rfl, start, tail_eq, rest_eq⟩ := layout.scan (ends rfl)
    rw [List.cons_append, scanOne?, if_pos start]
    simp only [List.cons_append, tail_eq, rest_eq]
  | literal literal => exact scanOne?_word (.literal literal) (ends rfl)
  | mark mark => exact scanOne?_mark mark rest

/-! ## All tokens -/

/-- Trailing blanks are looked for behind the last visible character. -/
theorem trimEnd_append (visible : ∃ char ∈ chars.getLast?, Text.isBlank char = false)
    (rest : List Char) : Text.trimEnd (chars ++ rest) = chars ++ Text.trimEnd rest := by
  obtain ⟨char, last, seen⟩ := visible
  have kept : chars.reverse.dropWhile Text.isBlank = chars.reverse := by
    apply trimStart_of_head
    intro other same
    rw [List.head?_reverse] at same
    rwa [← Option.mem_unique last same]
  rw [Text.trimEnd, Text.trimEnd, List.reverse_append, List.dropWhile_append]
  split
  · rename_i blank
    rw [kept, List.isEmpty_iff.1 blank, List.reverse_reverse, List.reverse_nil, List.append_nil]
  · rw [List.reverse_append, List.reverse_reverse]

theorem trimEnd_blanks (blank : ∀ char ∈ gap, Text.isBlank char) : Text.trimEnd gap = [] := by
  rw [Text.trimEnd, List.reverse_eq_nil_iff, List.dropWhile_eq_nil_iff]
  exact fun char member => blank char (List.mem_reverse.1 member)

theorem TokenLayout.trimStart (layout : TokenLayout token text)
    (blank : ∀ char ∈ gap, Text.isBlank char) (rest : List Char) :
    Text.trimStart (gap ++ (text ++ rest)) = text ++ rest := by
  obtain ⟨⟨char, first, seen⟩, -⟩ := layout.visible
  rw [trimStart_append blank]
  apply trimStart_of_head
  intro other same
  rw [List.head?_append, Option.mem_def.1 first] at same
  rwa [← Option.some.inj same]

theorem TokenLayout.trimEnd (layout : TokenLayout token text) (gap rest : List Char) :
    Text.trimEnd (gap ++ (text ++ rest)) = gap ++ (text ++ Text.trimEnd rest) := by
  obtain ⟨-, char, last, seen⟩ := layout.visible
  rw [← List.append_assoc, ← List.append_assoc, trimEnd_append]
  refine ⟨char, ?_, seen⟩
  rw [List.getLast?_append, Option.mem_def.1 last]
  rfl

/-- A word ends before a layout of tokens that do not begin with a word. -/
theorem Layout.ends (layout : Layout tokens tail)
    (apart : ∀ token ∈ tokens.head?, ¬ token.isWord) : Ends (Text.trimEnd tail) := by
  cases layout with
  | blanks blank =>
    rw [trimEnd_blanks blank]
    exact ends_nil
  | cons blank first others =>
    rw [first.trimEnd, Ends, first.trimStart blank]
    cases first with
    | name _ => exact absurd rfl (apart _ rfl)
    | literal _ => exact absurd rfl (apart _ rfl)
    | mark mark =>
      rintro char ⟨⟩
      exact ⟨mark, rfl⟩

/-- A layout of tokens without adjacent words is scanned into them. -/
theorem Layout.scan (layout : Layout tokens chars) (apart : WordsApart tokens) :
    scanFrom (Text.trimEnd chars) = .ok tokens := by
  induction layout with
  | blanks blank => rw [trimEnd_blanks blank, scanFrom_nil]
  | @cons token tokens gap text tail blank first others ih =>
    obtain ⟨next, apartTail⟩ := List.isChain_cons.1 apart
    -- A word must end before the rest, and does, since no word comes next.
    have ends (isWord : token.isWord) : Ends (Text.trimEnd tail) :=
      others.ends fun second isNext nextWord => next second isNext ⟨isWord, nextWord⟩
    have found : scanOne? (Text.trimStart (gap ++ (text ++ Text.trimEnd tail))) =
        some (token, Text.trimEnd tail) := by
      rw [first.trimStart blank, first.scan ends]
    rw [first.trimEnd, scanFrom_of_scanOne? found, ih apartTail]
    rfl

/-- What is scanned is a layout of the tokens that it is scanned into. -/
theorem layout_of_scanFrom (scanned : scanFrom chars = .ok tokens) : Layout tokens chars := by
  fun_induction scanFrom chars generalizing tokens with
  | case1 chars empty =>
    cases scanned
    rw [List.isEmpty_iff.1 empty]
    exact .blanks (List.forall_mem_nil _)
  | case2 chars some_char found => cases scanned
  | case3 chars some_char token rest found ih =>
    cases tail : scanFrom rest with
    | error left =>
      rw [tail] at scanned
      cases scanned
    | ok others =>
      rw [tail] at scanned
      cases scanned
      obtain ⟨blanks, blank, same⟩ := exists_trimStart chars
      obtain ⟨text, layout, sameToken⟩ := layout_of_scanOne? found
      rw [same, sameToken]
      exact .cons blank layout (ih tail)

theorem Layout.append_blanks (layout : Layout tokens chars)
    (blank : ∀ char ∈ gap, Text.isBlank char) : Layout tokens (chars ++ gap) := by
  induction layout with
  | blanks others => exact .blanks (List.forall_mem_append.2 ⟨others, blank⟩)
  | cons before first _ ih =>
    rw [List.append_assoc, List.append_assoc]
    exact .cons before first ih

/-- A text is scanned into tokens without adjacent words exactly if it is a layout of them. -/
theorem scan_eq_ok_iff (apart : WordsApart tokens) (text : String) :
    scan text = .ok tokens ↔ Layout tokens text.toList := by
  constructor
  · intro scanned
    obtain ⟨blanks, whole, blank⟩ := exists_trimEnd text.toList
    rw [whole]
    exact (layout_of_scanFrom (eq_ok_of_mapError scanned)).append_blanks blank
  · intro layout
    rw [Token.scan, layout.scan apart]
    rfl

/-! ## The grammar keeps words apart -/

theorem WordsApart.append_mark (first : WordsApart tokens) (mark : Mark)
    (second : WordsApart others) : WordsApart (tokens ++ .mark mark :: others) := by
  refine List.isChain_append.2 ⟨first, List.isChain_cons.2 ⟨fun _ _ => ?_, second⟩, fun _ _ => ?_⟩
  · exact fun words => absurd words.1 Bool.false_ne_true
  · rintro _ ⟨⟩ words
    exact absurd words.2 Bool.false_ne_true

theorem wordsApart_word (name : String) : WordsApart [.word name] :=
  List.isChain_singleton _

theorem wordsApart_mark (mark : Mark) : WordsApart [.mark mark] :=
  List.isChain_singleton _

end Token

namespace TypeExpr

open Token

mutual

theorem AtomTree.wordsApart : (tree : AtomTree) → WordsApart tree.tokens
  | .bare name => wordsApart_word name
  | .brackets name =>
    (wordsApart_word name).append_mark .openBracket (wordsApart_mark .closeBracket)
  | .applied name arguments =>
    (wordsApart_word name).append_mark .openBracket
      (arguments.wordsApart.append_mark .closeBracket .nil)

theorem ArgumentTrees.wordsApart : (trees : ArgumentTrees) → WordsApart trees.tokens
  | .last first => first.wordsApart
  | .more first others => first.wordsApart.append_mark .comma others.wordsApart

/-- The words of a derivation have marks between them. -/
theorem UnionTree.wordsApart : (tree : UnionTree) → WordsApart tree.tokens
  | .last first => first.wordsApart
  | .more first others => first.wordsApart.append_mark .bar others.wordsApart

end

/-- Reading goes by the tokens of a text. -/
theorem toOption_read_congr {tokens : List Token} {first second : String}
    (scannedFirst : Token.scan first = .ok tokens) (scannedSecond : Token.scan second = .ok tokens)
    (marker : String) : (read marker first).toOption = (read marker second).toOption := by
  rw [read, read, scannedFirst, scannedSecond]
  cases tokens with
  | nil => rfl
  | cons token rest =>
    dsimp only
    cases readUnion marker (token :: rest) with
    | error error => rfl
    | ok found =>
      dsimp only
      split <;> rfl

/-- Let some tokens be read to their end as a type. A text is scanned into these tokens exactly if
it is a layout of them, and every layout is read as that type. So all layouts are read alike, under
this marker and any other. -/
theorem read_layout {marker : String} {tokens : List Token} {found : Parsed TypeExpr tokens}
    (accepted : readUnion marker tokens = .ok found) (whole : found.rest = []) :
    (∀ text : String, Token.scan text = .ok tokens ↔ Layout tokens text.toList) ∧
    (∀ text : String, Layout tokens text.toList → read marker text = .ok found.value) ∧
    ∀ first second : String, Layout tokens first.toList → Layout tokens second.toList →
      ∀ another, (read another first).toOption = (read another second).toOption := by
  obtain ⟨consumed, same, derived⟩ := derives_of_readUnion accepted
  rw [whole, List.append_nil] at same
  subst same
  obtain ⟨tree, spelled⟩ := exists_unionTree derived
  have scanned := scan_eq_ok_iff (spelled ▸ tree.wordsApart)
  refine ⟨scanned, fun text layout => read_of_derives ((scanned text).2 layout) derived, ?_⟩
  intro first second firstLayout secondLayout another
  have firstScanned := (scanned first).2 firstLayout
  have secondScanned := (scanned second).2 secondLayout
  exact toOption_read_congr firstScanned secondScanned another

/-- The blanks around the dot are dropped, those in the quoted literal are kept. -/
theorem read_layout_wide :
    let tokens := [word "dict", mark .openBracket, word "typing.Any", mark .comma, word "'a  b'",
      mark .bar, word "None", mark .closeBracket]
    let text := "\u3000dict [typing\u00a0. Any\n,'a  b'|\tNone ]\u2028"
    ∃ found, readUnion "Optional" tokens = .ok found ∧ found.rest = [] ∧
      Layout tokens text.toList ∧ read "Optional" text =
        .ok (mk "dict" [bare "typing.Any", mk "Optional" [bare "'a  b'"]]) := by
  intro tokens text
  let tree : UnionTree := .last (.applied "dict" (.more (.last (.bare "typing.Any"))
    (.last (.more (.bare "'a  b'") (.last (.bare "None"))))))
  have visible : Text.isBlankText "Optional" = false := by decide
  obtain ⟨_, accepted⟩ := readUnion_of_derives (tree.derives visible) endsUnion_nil
  have scanned : Token.scan text = .ok tokens := eq_ok_of_toOption (by decide +kernel)
  have alike := read_layout accepted rfl
  have layout := (alike.1 text).1 scanned
  exact ⟨_, accepted, rfl, layout, alike.2.1 text layout⟩

end TypeExpr

end Fieldwise
