import Fieldwise.Proofs.Type.Word
import Mathlib.Data.List.TakeWhile

/-! # Scanning whole texts

A scan takes one token after the other, so a text is scanned token by token from the front
(`scanFrom_of_scanOne?`) and all that scanning does follows from what it does to one token. It is
scanned from a piece of text that is written in one of a few ways (`TokenLayout`), so the words that
come out are in normal form, whatever blanks the text holds. Texts are put together from
words, brackets and separators, and `Spells` says what the whole is scanned into. -/

namespace Fieldwise.Token

/-! ## What a token is scanned from -/

/-- A way to write a token: names may have blanks around their dots, literals and marks stand as
they are. -/
inductive TokenLayout : Token → List Char → Prop
  | name {name text : List Char} (layout : NameLayout name text) :
      TokenLayout (.word (String.ofList name)) text
  | literal {text : List Char} (literal : Literal text) :
      TokenLayout (.word (String.ofList text)) text
  | mark (mark : Mark) : TokenLayout (.mark mark) [mark.char]

/-- A way to write the further segments of a name: nothing, or a dot and a name, with blanks around
the dot. -/
inductive SegmentsLayout : List Char → List Char → Prop
  | none : SegmentsLayout [] []
  | dotted {before after name text : List Char} (beforeBlank : ∀ char ∈ before, Text.isBlank char)
      (afterBlank : ∀ char ∈ after, Text.isBlank char) (layout : NameLayout name text) :
      SegmentsLayout ('.' :: name) (before ++ '.' :: (after ++ text))

theorem SegmentsLayout.name {first : Char} (start : isNameStart first) {rest more text : List Char}
    (parts : ∀ char ∈ rest, isNamePart char) (segments : SegmentsLayout more text) :
    NameLayout (first :: rest ++ more) (first :: rest ++ text) := by
  cases segments with
  | none =>
    rw [List.append_nil]
    exact .segment start parts
  | dotted beforeBlank afterBlank layout => exact .dotted start parts beforeBlank afterBlank layout

theorem exists_trimStart (chars : List Char) :
    ∃ blanks, (∀ char ∈ blanks, Text.isBlank char) ∧ chars = blanks ++ Text.trimStart chars :=
  ⟨chars.takeWhile Text.isBlank, fun _ member => List.mem_takeWhile_imp member,
    List.takeWhile_append_dropWhile.symm⟩

/-- Where a dot is found there are blanks around it, and a segment of a name follows. -/
theorem afterDot?_eq_some {chars rest : List Char} (found : afterDot? chars = some rest) :
    ∃ before after, (∀ char ∈ before, Text.isBlank char) ∧ (∀ char ∈ after, Text.isBlank char) ∧
      chars = before ++ '.' :: (after ++ rest) ∧
      ∃ first others, rest = first :: others ∧ isNameStart first := by
  obtain ⟨before, beforeBlank, same⟩ := exists_trimStart chars
  unfold afterDot? at found
  split at found
  · rename_i tail dotted
    obtain ⟨after, afterBlank, sameTail⟩ := exists_trimStart tail
    split at found
    · rename_i starts
      obtain rfl := Option.some.inj found
      refine ⟨before, after, beforeBlank, afterBlank, by rw [← sameTail, ← dotted, ← same], ?_⟩
      cases trimmed : Text.trimStart tail with
      | nil => simp [trimmed] at starts
      | cons first others => exact ⟨first, others, rfl, by simpa [trimmed] using starts⟩
    · cases found
  · cases found

/-- The further segments of a name are read from a way to write them. -/
theorem moreSegments_layout (chars : List Char) :
    ∃ text, SegmentsLayout (moreSegments chars).1 text ∧
      chars = text ++ (moreSegments chars).2 := by
  fun_induction moreSegments chars with
  | case1 chars found => exact ⟨[], .none, rfl⟩
  | case2 chars rest found more tail split ih =>
    obtain ⟨before, after, beforeBlank, afterBlank, same, first, others, rfl, start⟩ :=
      afterDot?_eq_some found
    obtain ⟨text, segments, sameTail⟩ := ih
    rw [split] at segments sameTail
    have startPart : isNamePart first = true := isNamePart_of_isNameStart start
    rw [List.dropWhile_cons, if_pos startPart] at sameTail
    have parts : ∀ char ∈ others.takeWhile isNamePart, isNamePart char :=
      fun _ member => List.mem_takeWhile_imp member
    rw [List.takeWhile_cons, if_pos startPart]
    refine ⟨_, .dotted beforeBlank afterBlank (segments.name start parts), ?_⟩
    simp [same, ← sameTail]

/-- A quoted literal is kept as it stands. -/
theorem quotedLiteral?_eq_some {quote : Char} {chars text rest : List Char}
    (isQuote : quote = '\'' ∨ quote = '"')
    (found : quotedLiteral? quote chars = some (text, rest)) :
    Literal text ∧ quote :: chars = text ++ rest := by
  unfold quotedLiteral? at found
  split at found
  · cases found
  · rename_i mark tail dropped
    obtain ⟨rfl, rfl⟩ := Prod.mk.inj (Option.some.inj found)
    constructor
    · refine .quoted isQuote fun member => ?_
      have outside := List.mem_takeWhile_imp member
      simp at outside
    · have closes := List.head?_dropWhile_not (· != quote) chars
      rw [dropped] at closes
      obtain rfl : mark = quote := by simpa using closes
      have cut := List.takeWhile_append_dropWhile (p := (· != mark)) (l := chars)
      rw [dropped] at cut
      simp [cut]

/-- Digits may go on with a point and further digits. -/
theorem Number.of_decimalPart {digits : List Char} (some_digit : digits ≠ [])
    (all_digits : ∀ char ∈ digits, Text.isDigit char) (chars : List Char) :
    Number (digits ++ (decimalPart chars).1) ∧
      chars = (decimalPart chars).1 ++ (decimalPart chars).2 := by
  unfold decimalPart
  split
  · rename_i tail
    split
    · rename_i starts
      have some_fraction : tail.takeWhile Text.isDigit ≠ [] := by
        cases tail with
        | nil => cases starts
        | cons first others =>
          rw [List.takeWhile_cons, if_pos (by simpa using starts)]
          exact List.cons_ne_nil _ _
      constructor
      · exact .decimal some_digit all_digits some_fraction fun _ member =>
          List.mem_takeWhile_imp member
      · rw [List.cons_append, List.takeWhile_append_dropWhile]
    · rw [List.append_nil]
      exact ⟨.whole some_digit all_digits, rfl⟩
  · rw [List.append_nil]
    exact ⟨.whole some_digit all_digits, rfl⟩

theorem number?_eq_some {chars text rest : List Char}
    (found : number? chars = some (text, rest)) : Number text ∧ chars = text ++ rest := by
  unfold number? at found
  simp only at found
  split at found
  · cases found
  · rename_i some_digit
    rw [List.isEmpty_iff] at some_digit
    obtain ⟨rfl, rfl⟩ := Prod.mk.inj (Option.some.inj found)
    have all_digits : ∀ char ∈ chars.takeWhile Text.isDigit, Text.isDigit char :=
      fun _ member => List.mem_takeWhile_imp member
    obtain ⟨number, cut⟩ :=
      Number.of_decimalPart some_digit all_digits (chars.dropWhile Text.isDigit)
    refine ⟨number, ?_⟩
    rw [List.append_assoc, ← cut, List.takeWhile_append_dropWhile]

/-- A literal is kept as it stands. -/
theorem literal?_eq_some {chars text rest : List Char}
    (found : literal? chars = some (text, rest)) : Literal text ∧ chars = text ++ rest := by
  unfold literal? at found
  split at found
  · exact quotedLiteral?_eq_some (.inl rfl) found
  · exact quotedLiteral?_eq_some (.inr rfl) found
  · obtain ⟨rfl, rfl⟩ := Prod.mk.inj (Option.some.inj found)
    exact ⟨.points, rfl⟩
  · obtain ⟨⟨digits, tail⟩, isNumber, same⟩ := Option.map_eq_some_iff.1 found
    obtain ⟨rfl, rfl⟩ := Prod.mk.inj same
    obtain ⟨number, cut⟩ := number?_eq_some isNumber
    exact ⟨.negative number, by rw [cut, List.cons_append]⟩
  · obtain ⟨number, cut⟩ := number?_eq_some found
    exact ⟨.number number, cut⟩

/-- A token is scanned from a way to write it. -/
theorem layout_of_scanOne? {chars rest : List Char} {token : Token}
    (found : scanOne? chars = some (token, rest)) :
    ∃ text, TokenLayout token text ∧ chars = text ++ rest := by
  unfold scanOne? at found
  split at found
  · cases found
  · rename_i first tail
    split at found
    · rename_i start
      obtain ⟨rfl, rfl⟩ := Prod.mk.inj (Option.some.inj found)
      obtain ⟨text, segments, same⟩ := moreSegments_layout (tail.dropWhile isNamePart)
      refine ⟨_, .name (segments.name start fun _ member => List.mem_takeWhile_imp member), ?_⟩
      rw [List.append_assoc, ← same, List.cons_append, List.takeWhile_append_dropWhile]
    · split at found
      · rename_i literal
        obtain ⟨rfl, rfl⟩ := Prod.mk.inj (Option.some.inj found)
        obtain ⟨isLiteral, cut⟩ := literal?_eq_some literal
        exact ⟨_, .literal isLiteral, cut⟩
      · obtain ⟨punctuation, isMark, same⟩ := Option.map_eq_some_iff.1 found
        obtain ⟨rfl, rfl⟩ := Prod.mk.inj same
        obtain rfl := char_of_ofChar? isMark
        exact ⟨_, .mark punctuation, rfl⟩

/-- The word that is written in some way is in normal form. -/
theorem TokenLayout.word {name : String} {text : List Char}
    (layout : TokenLayout (.word name) text) : Word name.toList := by
  cases layout with
  | name layout =>
    rw [String.toList_ofList]
    exact .name layout.dottedName
  | literal literal =>
    rw [String.toList_ofList]
    exact .literal literal

/-- A scanned word is in normal form. -/
theorem word_of_scanOne? {chars rest : List Char} {text : String}
    (found : scanOne? chars = some (word text, rest)) : Word text.toList := by
  obtain ⟨_, layout, -⟩ := layout_of_scanOne? found
  exact layout.word

/-! ## One token after the other -/

theorem scanFrom_of_scanOne? {chars rest : List Char} {token : Token}
    (found : scanOne? (Text.trimStart chars) = some (token, rest)) :
    scanFrom chars = (scanFrom rest).map (token :: ·) := by
  have some_char : chars.isEmpty = false := by
    cases chars with
    | nil => cases found
    | cons _ _ => rfl
  rw [scanFrom, some_char]
  split
  · contradiction
  · split
    · rename_i missing
      rw [found] at missing
      cases missing
    · rename_i other tail same
      rw [found] at same
      obtain ⟨rfl, rfl⟩ := Prod.mk.inj (Option.some.inj same)
      cases scanFrom rest <;> rfl

theorem scanFrom_nil : scanFrom [] = .ok [] := by
  rw [scanFrom]
  rfl

theorem trimStart_append {blanks rest : List Char}
    (blank : ∀ char ∈ blanks, Text.isBlank char) :
    Text.trimStart (blanks ++ rest) = Text.trimStart rest :=
  List.dropWhile_append_of_pos blank

/-- A word after blanks is one token if it ends. -/
theorem scanFrom_word {blanks chars rest : List Char} (blank : ∀ char ∈ blanks, Text.isBlank char)
    (isWord : Word chars) (ends : Ends rest) :
    scanFrom (blanks ++ (chars ++ rest)) =
      (scanFrom rest).map (word (String.ofList chars) :: ·) := by
  have atWord : Text.trimStart (chars ++ rest) = chars ++ rest := by
    apply trimStart_of_head
    obtain ⟨first, others, rfl⟩ := List.exists_cons_of_ne_nil isWord.ne_nil
    exact isWord.not_blank_ends.1
  apply scanFrom_of_scanOne?
  rw [trimStart_append blank, atWord, scanOne?_word isWord ends]

theorem trimStart_mark (mark : Mark) (rest : List Char) :
    Text.trimStart (mark.char :: rest) = mark.char :: rest := by
  apply trimStart_of_head
  intro char same
  cases same
  exact (mark_apart mark).2.2

theorem ends_nil : Ends [] :=
  nofun

theorem trimEnd_of_getLast {chars : List Char}
    (last : ∀ char ∈ chars.getLast?, Text.isBlank char = false) : Text.trimEnd chars = chars := by
  have reversed : Text.trimStart chars.reverse = chars.reverse :=
    trimStart_of_head (by simpa only [List.head?_reverse] using last)
  exact (congrArg List.reverse reversed).trans chars.reverse_reverse

/-- A word has no blanks to strip. -/
theorem strip_word {text : String} (isWord : Word text.toList) : Text.strip text = text := by
  obtain ⟨first, last⟩ := isWord.not_blank_ends
  rw [Text.strip, Text.stripChars, trimStart_of_head first, trimEnd_of_getLast last,
    String.ofList_toList]

/-- Every word of a scan is in normal form. -/
theorem word_of_mem_scanFrom {chars : List Char} {tokens : List Token}
    (scanned : scanFrom chars = .ok tokens) {text : String} (member : word text ∈ tokens) :
    Word text.toList := by
  fun_induction scanFrom chars generalizing tokens with
  | case1 chars empty =>
    cases scanned
    cases member
  | case2 chars some_char found => cases scanned
  | case3 chars some_char token rest found ih =>
    cases tail : scanFrom rest with
    | error left =>
      rw [tail] at scanned
      cases scanned
    | ok others =>
      rw [tail] at scanned
      cases scanned
      rcases List.mem_cons.1 member with rfl | member
      · exact word_of_scanOne? found
      · exact ih tail member

theorem word_of_mem_scan {text : String} {tokens : List Token} (scanned : scan text = .ok tokens)
    {name : String} (member : word name ∈ tokens) : Word name.toList := by
  rw [scan] at scanned
  cases whole : scanFrom (Text.trimEnd text.toList) with
  | error left => simp [whole, Except.mapError] at scanned
  | ok found =>
    simp only [whole, Except.mapError, Except.ok.injEq] at scanned
    exact word_of_mem_scanFrom whole (scanned ▸ member)

/-! ## Texts that spell tokens -/

/-- A text spells some tokens if it is scanned into them wherever it stands, up to what follows it,
and does not end in a blank. -/
structure Spells (text : List Char) (tokens : List Token) : Prop where
  scanned : ∀ blanks rest, (∀ char ∈ blanks, Text.isBlank char) → Ends rest →
    scanFrom (blanks ++ (text ++ rest)) = (scanFrom rest).map (tokens ++ ·)
  visible : ∃ char ∈ text.getLast?, Text.isBlank char = false

namespace Spells

variable {text others : List Char} {tokens more : List Token} {name : String}

theorem word (isWord : Word name.toList) : Spells name.toList [.word name] where
  scanned blanks rest blank ends := by
    rw [scanFrom_word blank isWord ends, String.ofList_toList]
    rfl
  visible :=
    ⟨_, List.getLast?_eq_getLast_of_ne_nil isWord.ne_nil,
      isWord.not_blank_ends.2 _ (List.getLast?_eq_getLast_of_ne_nil isWord.ne_nil)⟩

/-- A text before a mark is scanned before it, also if there are blanks between the two. -/
theorem before_mark (spells : Spells text tokens) {blanks gap : List Char}
    (blank : ∀ char ∈ blanks, Text.isBlank char) (gapBlank : ∀ char ∈ gap, Text.isBlank char)
    (mark : Mark) (rest : List Char) :
    scanFrom (blanks ++ (text ++ (gap ++ mark.char :: rest))) =
      (scanFrom rest).map (tokens ++ .mark mark :: ·) := by
  have atMark : Text.trimStart (gap ++ mark.char :: rest) = mark.char :: rest := by
    rw [trimStart_append gapBlank, trimStart_mark]
  have ends : Ends (gap ++ mark.char :: rest) := by
    rw [Ends, atMark]
    rintro char ⟨⟩
    exact ⟨mark, rfl⟩
  have scanMark : scanFrom (gap ++ mark.char :: rest) = (scanFrom rest).map (.mark mark :: ·) := by
    apply scanFrom_of_scanOne?
    rw [atMark, scanOne?_mark]
  rw [spells.scanned blanks _ blank ends, scanMark]
  cases scanFrom rest <;> rfl

/-- Two texts with a mark between them spell the tokens of both with the mark between them. -/
theorem separated (first : Spells text tokens) {gap : List Char}
    (gapBlank : ∀ char ∈ gap, Text.isBlank char) (mark : Mark) (second : Spells others more) :
    Spells (text ++ (gap ++ mark.char :: ' ' :: others)) (tokens ++ .mark mark :: more) where
  scanned blanks rest blank ends := by
    have space := second.scanned [' '] rest (List.forall_mem_singleton.2 (by decide)) ends
    rw [List.append_assoc, List.append_assoc, List.cons_append, List.cons_append,
      first.before_mark blank gapBlank, ← List.singleton_append, space]
    cases scanFrom rest with
    | error _ => rfl
    | ok tokens => simp [Except.map]
  visible := by
    obtain ⟨char, last, seen⟩ := second.visible
    refine ⟨char, ?_, seen⟩
    have some_char : others ≠ [] := by
      rintro rfl
      cases last
    rw [List.getLast?_append_of_ne_nil _ (by simp), List.getLast?_append_of_ne_nil _ (by simp),
      List.getLast?_cons_cons]
    simpa [List.getLast?_cons_of_ne_nil some_char] using last

/-- A word with arguments in brackets spells the word, the brackets and what the arguments spell,
also if there are blanks before the bracket that closes them. -/
theorem applied (isWord : Word name.toList) (inner : Spells text tokens) {gap : List Char}
    (gapBlank : ∀ char ∈ gap, Text.isBlank char) :
    Spells (name.toList ++ Mark.openBracket.char :: (text ++ (gap ++ [Mark.closeBracket.char])))
      (.word name :: .mark .openBracket :: tokens ++ [.mark .closeBracket]) where
  scanned blanks rest blank ends := by
    have noBlank : ∀ char ∈ ([] : List Char), Text.isBlank char := List.forall_mem_nil _
    have scanInner := inner.before_mark noBlank gapBlank .closeBracket rest
    have scanName := (Spells.word isWord).before_mark blank noBlank .openBracket
      (text ++ (gap ++ Mark.closeBracket.char :: rest))
    simp only [List.nil_append] at scanInner scanName
    rw [List.append_assoc, List.cons_append, List.append_assoc, List.append_assoc,
      List.singleton_append, scanName, scanInner]
    cases scanFrom rest with
    | error _ => rfl
    | ok tokens => simp [Except.map]
  visible := by
    refine ⟨Mark.closeBracket.char, ?_, (mark_apart .closeBracket).2.2⟩
    rw [List.getLast?_append_cons, ← List.append_assoc, ← List.cons_append, List.getLast?_concat]
    rfl

/-- A text is scanned into what it spells, also if blanks follow. -/
theorem scan_padded {text : String} {chars blanks : List Char} (spells : Spells chars tokens)
    (whole : text.toList = chars ++ blanks) (blank : ∀ char ∈ blanks, Text.isBlank char) :
    Token.scan text = .ok tokens := by
  obtain ⟨char, last, seen⟩ := spells.visible
  have trimmed : Text.trimEnd text.toList = chars := by
    have lastSeen : ∀ other ∈ chars.getLast?, Text.isBlank other = false := by
      intro other otherLast
      rwa [← Option.mem_unique last otherLast]
    rw [whole, Text.trimEnd, List.reverse_append, List.dropWhile_append_of_pos]
    · exact trimEnd_of_getLast lastSeen
    · exact fun other member => blank other (List.mem_reverse.1 member)
  have scanned := spells.scanned [] [] (List.forall_mem_nil _) ends_nil
  simp only [List.nil_append, List.append_nil, scanFrom_nil, Except.map] at scanned
  rw [Token.scan, trimmed, scanned]
  rfl

/-- What a text spells is what it is scanned into. -/
theorem scan {text : String} (spells : Spells text.toList tokens) :
    Token.scan text = .ok tokens :=
  spells.scan_padded (List.append_nil _).symm (List.forall_mem_nil _)

end Spells

end Fieldwise.Token
