import Fieldwise.Proofs.Rendering.Legality
import Mathlib.Data.List.Chain

/-! # What lower-snake forms look like

The lower-snake form of a name keeps the ASCII letters and digits of the name in their order, in
lower case, and puts single underscores between some of them: where anything else stood between two
of them, and where a capital begins a word. -/

namespace Fieldwise.Naming

/-- Whether two letters or digits that follow each other in a name belong to different words: if
anything else stands between them, if a capital comes after a lower-case letter or a digit, or if
both are capitals and a lower-case letter comes immediately after the second one. -/
def Separated (left : Char) (between : List Char) (right : Char) (after : List Char) : Prop :=
  between ≠ [] ∨ ((isLower left ∨ isDigit left) ∧ isUpper right) ∨
    (isUpper left ∧ isUpper right ∧ after.head?.any isLower)

instance (left : Char) (between : List Char) (right : Char) (after : List Char) :
    Decidable (Separated left between right after) :=
  inferInstanceAs (Decidable (_ ∨ _ ∨ _))

/-- The letters and digits of a lower-snake form. -/
def lettersOf (form : List Char) : List Char :=
  form.filter (· ≠ '_')

/-- The ASCII letters and digits of a part of a name, in lower case. -/
def loweredKept (chars : List Char) : List Char :=
  (chars.filter isKept).map Char.toLower

/-- What the lower-snake form of a name is. -/
structure IsFormOf (name form : List Char) : Prop where
  empty_iff : form = [] ↔ ∀ char ∈ name, ¬ isKept char
  words : form ≠ [] → ∃ words, words ≠ [] ∧
    (∀ word ∈ words, word ≠ [] ∧ ∀ char ∈ word, isWordChar char) ∧ form = ['_'].intercalate words
  letters : lettersOf form = loweredKept name
  separated : ∀ before left between right after,
    name = before ++ left :: (between ++ right :: after) → isKept left → isKept right →
    (∀ char ∈ between, ¬ isKept char) → ∃ front back,
      form = front ++ left.toLower ::
        ((if Separated left between right after then ['_'] else []) ++ right.toLower :: back) ∧
      lettersOf front = loweredKept before ∧ lettersOf back = loweredKept after

/-- No two underscores stand next to each other. -/
def Single (chars : List Char) : Prop :=
  chars.IsChain fun first second => ¬ (first = '_' ∧ second = '_')

/-- Only letters, digits and underscores. -/
def Plain (chars : List Char) : Prop :=
  ∀ char ∈ chars, isKept char ∨ char = '_'

variable {chars front before gap rest : List Char} {left right : Char}

theorem not_isKept_underscore : ¬ isKept '_' := by decide

theorem ne_underscore_of_isKept {char : Char} (kept : isKept char) : char ≠ '_' := by
  rintro rfl
  exact not_isKept_underscore kept

theorem filter_underscore (condition : Prop) [Decidable condition] :
    (if condition then ['_'] else []).filter isKept = [] := by
  split
  · exact List.filter_cons_of_neg not_isKept_underscore
  · rfl

/-! ## What spacing does -/

theorem isBoundary_of_dropped {next : Option Char} (dropped : ¬ isKept left) :
    isBoundary left right next = false := by
  rw [isKept, Bool.or_eq_true, not_or] at dropped
  simp [isBoundary, dropped]

theorem isBoundary_before_dropped {next : Option Char} (dropped : ¬ isKept right) :
    isBoundary left right next = false := by
  rw [isKept, Bool.or_eq_true, not_or] at dropped
  simp [isBoundary, dropped]

theorem filter_spaced (chars : List Char) : (spaced chars).filter isKept = chars.filter isKept := by
  fun_induction spaced chars with
  | case1 left right rest boundary ih =>
    rw [List.filter_cons, List.filter_cons_of_neg not_isKept_underscore, ih, ← List.filter_cons]
  | case2 left right rest boundary ih => rw [List.filter_cons, ih, ← List.filter_cons]
  | case3 chars => rfl

theorem spaced_cons_cons (left right : Char) (rest : List Char) :
    spaced (left :: right :: rest) = left ::
      ((if isBoundary left right rest.head? then ['_'] else []) ++ spaced (right :: rest)) := by
  rw [spaced]
  split <;> rfl

/-- The first character stays the first. -/
theorem exists_spaced_cons (left : Char) (rest : List Char) :
    ∃ tail, spaced (left :: rest) = left :: tail ∧ tail.filter isKept = rest.filter isKept := by
  cases rest with
  | nil => exact ⟨[], rfl, rfl⟩
  | cons right rest =>
    refine ⟨_, spaced_cons_cons left right rest, ?_⟩
    rw [List.filter_append, filter_underscore, filter_spaced, List.nil_append]

/-- Nothing is set into characters that are dropped, nor behind them. -/
theorem spaced_gap (dropped : ∀ char ∈ gap, ¬ isKept char) (right : Char) (rest : List Char) :
    spaced (gap ++ right :: rest) = gap ++ spaced (right :: rest) := by
  induction gap with
  | nil => rfl
  | cons first others ih =>
    obtain ⟨firstDropped, othersDropped⟩ := List.forall_mem_cons.1 dropped
    obtain ⟨second, more, same⟩ : ∃ second more, others ++ right :: rest = second :: more := by
      cases others <;> exact ⟨_, _, rfl⟩
    rw [List.cons_append, List.cons_append, ← ih othersDropped, same, spaced_cons_cons,
      isBoundary_of_dropped firstDropped]
    rfl

/-- Where a name goes on from one letter or digit to the next, an underscore is set at most if they
are neighbours. -/
theorem exists_spaced (before : List Char) (left : Char) (dropped : ∀ char ∈ gap, ¬ isKept char)
    (right : Char) (after : List Char) : ∃ front back,
      spaced (before ++ left :: (gap ++ right :: after)) = front ++ left ::
        ((if gap = [] ∧ isBoundary left right after.head? then ['_'] else gap) ++ right :: back) ∧
      front.filter isKept = before.filter isKept ∧ back.filter isKept = after.filter isKept := by
  induction before with
  | nil =>
    obtain ⟨back, starts, kept⟩ := exists_spaced_cons right after
    refine ⟨[], back, ?_, rfl, kept⟩
    cases gap with
    | nil =>
      rw [List.nil_append, List.nil_append, spaced_cons_cons, starts]
      simp
    | cons first others =>
      have firstDropped := (List.forall_mem_cons.1 dropped).1
      have rest := spaced_gap dropped right after
      rw [List.cons_append] at rest
      rw [List.nil_append, List.cons_append, spaced_cons_cons, rest,
        isBoundary_before_dropped firstDropped, starts]
      simp
  | cons first others ih =>
    obtain ⟨front, back, same, frontKept, backKept⟩ := ih
    obtain ⟨second, more, isCons⟩ : ∃ second more,
        others ++ left :: (gap ++ right :: after) = second :: more := by
      cases others <;> exact ⟨_, _, rfl⟩
    refine ⟨first :: ((if isBoundary first second more.head? then ['_'] else []) ++ front), back,
      ?_, ?_, backKept⟩
    · rw [List.cons_append, isCons, spaced_cons_cons, ← isCons, same]
      simp
    · rw [List.filter_cons, List.filter_append, filter_underscore, List.nil_append, frontKept,
        ← List.filter_cons]

/-! ## What joining does -/

theorem filter_joined (inGap : Bool) (chars : List Char) :
    (joined inGap chars).filter isKept = chars.filter isKept := by
  fun_induction joined inGap chars with
  | case1 => rfl
  | case2 inGap char rest kept ih => rw [List.filter_cons, ih, ← List.filter_cons]
  | case3 char rest dropped ih => rw [ih, List.filter_cons_of_neg dropped]
  | case4 inGap char rest dropped first ih =>
    rw [List.filter_cons_of_neg not_isKept_underscore, ih, List.filter_cons_of_neg dropped]

theorem joined_append (kept : isKept left) (inGap : Bool) (front rest : List Char) :
    joined inGap (front ++ left :: rest) = joined inGap front ++ left :: joined false rest := by
  induction front generalizing inGap with
  | nil => simp [joined, kept]
  | cons first others ih =>
    rw [List.cons_append, joined, joined]
    split
    · rw [ih, List.cons_append]
    · split
      · rw [ih]
      · rw [ih, List.cons_append]

/-- What is dropped before a letter or digit leaves one underscore, unless a gap is being passed. -/
theorem joined_gap (dropped : ∀ char ∈ gap, ¬ isKept char) (kept : isKept right) (inGap : Bool)
    (rest : List Char) : joined inGap (gap ++ right :: rest) =
      (if gap = [] ∨ inGap then [] else ['_']) ++ right :: joined false rest := by
  induction gap generalizing inGap with
  | nil =>
    rw [List.nil_append, joined, if_pos kept]
    simp
  | cons first others ih =>
    obtain ⟨firstDropped, othersDropped⟩ := List.forall_mem_cons.1 dropped
    rw [List.cons_append, joined, if_neg firstDropped, ih othersDropped]
    cases inGap <;> simp

/-- Joining leaves single underscores. -/
theorem single_joined (inGap : Bool) (chars : List Char) :
    Single (joined inGap chars) ∧ (inGap → (joined inGap chars).head? ≠ some '_') := by
  fun_induction joined inGap chars with
  | case1 => exact ⟨.nil, fun _ same => by cases same⟩
  | case2 inGap char rest kept ih =>
    have apart := ne_underscore_of_isKept kept
    refine ⟨List.isChain_cons.2 ⟨fun _ _ both => apart both.1, ih.1⟩, fun _ same => ?_⟩
    exact apart (Option.some.inj same)
  | case3 char rest dropped ih => exact ih
  | case4 inGap char rest dropped first ih =>
    refine ⟨List.isChain_cons.2 ⟨fun next isNext both => ?_, ih.1⟩, fun open_ => ?_⟩
    · exact ih.2 rfl (by rw [Option.mem_def.1 isNext, both.2])
    · exact absurd open_ first

/-! ## What trimming does -/

theorem trimmed_eq (chars : List Char) :
    trimmed chars = (chars.dropWhile (· == '_')).rdropWhile (· == '_') :=
  rfl

theorem filter_dropWhile (chars : List Char) :
    (chars.dropWhile (· == '_')).filter isKept = chars.filter isKept := by
  induction chars with
  | nil => rfl
  | cons first others ih =>
    rw [List.dropWhile_cons]
    split
    · rename_i underscore
      rw [ih, beq_iff_eq.1 underscore, List.filter_cons_of_neg not_isKept_underscore]
    · rfl

theorem filter_rdropWhile (chars : List Char) :
    (chars.rdropWhile (· == '_')).filter isKept = chars.filter isKept := by
  rw [List.rdropWhile, List.filter_reverse, filter_dropWhile, List.filter_reverse,
    List.reverse_reverse]

theorem dropWhile_append (apart : left ≠ '_') (front rest : List Char) :
    (front ++ left :: rest).dropWhile (· == '_') =
      front.dropWhile (· == '_') ++ left :: rest := by
  rw [List.dropWhile_append, List.dropWhile_cons, beq_eq_false_iff_ne.2 apart]
  split
  · rename_i none
    rw [List.isEmpty_iff.1 none]
    rfl
  · rfl

theorem rdropWhile_append (apart : right ≠ '_') (front back : List Char) :
    (front ++ right :: back).rdropWhile (· == '_') =
      front ++ right :: back.rdropWhile (· == '_') := by
  have same := dropWhile_append apart back.reverse front.reverse
  simp [List.rdropWhile, same]

theorem trimmed_append (leftApart : left ≠ '_') (rightApart : right ≠ '_')
    (front between back : List Char) :
    trimmed (front ++ left :: (between ++ right :: back)) = front.dropWhile (· == '_') ++
      left :: (between ++ right :: back.rdropWhile (· == '_')) := by
  rw [trimmed_eq, dropWhile_append leftApart, ← List.cons_append, ← List.append_assoc,
    rdropWhile_append rightApart, List.append_assoc, List.cons_append]

/-- What is left is a part of the whole. -/
theorem exists_eq_append_trimmed (chars : List Char) :
    ∃ front back, front ++ trimmed chars ++ back = chars := by
  have atFront : trimmed chars <+: chars.dropWhile (· == '_') := List.rdropWhile_prefix ..
  exact atFront.isInfix.trans (List.dropWhile_suffix _).isInfix

theorem head?_trimmed_ne (chars : List Char) (plain : Plain chars) :
    (trimmed chars).head? ≠ some '_' := by
  rw [head?_trimmed plain]
  exact fun found => not_isKept_underscore (List.find?_some found)

theorem getLast?_trimmed_ne (chars : List Char) : (trimmed chars).getLast? ≠ some '_' := by
  rw [trimmed, List.getLast?_reverse]
  intro last
  have seen := List.head?_dropWhile_not (· == '_') (chars.dropWhile (· == '_')).reverse
  rw [last] at seen
  exact absurd seen (by decide)

/-! ## The form of a name -/

theorem toLower_of_isSnakeChar {char : Char} (snake : isSnakeChar char) : char.toLower = char :=
  forall_kept (P := fun char => isSnakeChar char → char.toLower = char) (by decide)
    (isKept_of_isSnakeChar snake) snake

theorem toLower_eq_underscore_iff {char : Char} (plain : isKept char ∨ char = '_') :
    char.toLower = '_' ↔ ¬ isKept char :=
  forall_kept (P := fun char => char.toLower = '_' ↔ ¬ isKept char) (by decide) plain

/-- Words joined by single underscores, or nothing. -/
structure IsSnake (chars : List Char) : Prop where
  snake : ∀ char ∈ chars, isSnakeChar char
  single : Single chars
  head : chars.head? ≠ some '_'
  last : chars.getLast? ≠ some '_'

theorem lettersOf_map_toLower (plain : Plain chars) :
    lettersOf (chars.map Char.toLower) = loweredKept chars := by
  rw [lettersOf, loweredKept, List.filter_map]
  refine congrArg (List.map Char.toLower) (List.filter_congr fun char member => ?_)
  have same := toLower_eq_underscore_iff (plain char member)
  by_cases kept : isKept char <;> simp_all

theorem plain_joined (inGap : Bool) (chars : List Char) : Plain (joined inGap chars) :=
  kept_of_mem_joined inGap chars

theorem toList_lowerSnake (name : String) : (lowerSnake name).toList =
    (trimmed (joined false (spaced name.toList))).map Char.toLower := by
  rw [lowerSnake, String.toList_ofList]

theorem eq_underscore_of_toLower {char : Char} (plain : isKept char ∨ char = '_')
    (lowered : char.toLower = '_') : char = '_' :=
  plain.resolve_left ((toLower_eq_underscore_iff plain).1 lowered)

theorem map_toLower_ne (plain : Plain chars) {place : Option Char}
    (inside : ∀ char ∈ place, char ∈ chars) (apart : place ≠ some '_') :
    place.map Char.toLower ≠ some '_' := by
  intro same
  obtain ⟨char, isPlace, lowered⟩ := Option.map_eq_some_iff.1 same
  rw [eq_underscore_of_toLower (plain char (inside char isPlace)) lowered] at isPlace
  exact apart isPlace

theorem Single.map_toLower (single : Single chars) (plain : Plain chars) :
    Single (chars.map Char.toLower) := by
  refine (List.isChain_map _).2 (List.IsChain.imp_of_mem_imp ?_ single)
  rintro first second firstIn secondIn apart ⟨firstLowered, secondLowered⟩
  exact apart ⟨eq_underscore_of_toLower (plain first firstIn) firstLowered,
    eq_underscore_of_toLower (plain second secondIn) secondLowered⟩

theorem isSnake_lowerSnake (name : String) : IsSnake (lowerSnake name).toList := by
  refine ⟨isSnakeChar_of_mem_lowerSnake name, ?_, ?_, ?_⟩
  all_goals rw [toList_lowerSnake]
  all_goals generalize spaced name.toList = chars
  all_goals have plain : Plain (trimmed (joined false chars)) := fun char member =>
    plain_joined false chars char (mem_of_mem_trimmed member)
  · obtain ⟨front, back, same⟩ := exists_eq_append_trimmed (joined false chars)
    have whole := (single_joined false chars).1
    rw [← same] at whole
    exact Single.map_toLower whole.left_of_append.right_of_append plain
  · rw [List.head?_map]
    exact map_toLower_ne plain (fun _ => List.mem_of_mem_head?)
      (head?_trimmed_ne _ (plain_joined false chars))
  · rw [List.getLast?_map]
    exact map_toLower_ne plain (fun _ => List.mem_of_mem_getLast?) (getLast?_trimmed_ne _)

/-- Letters and digits with single underscores between them are words, in a word or before one. -/
theorem isWords_of_single (snake : ∀ char ∈ chars, isSnakeChar char) (single : Single chars)
    (last : chars.getLast? ≠ some '_') (inWord : Bool)
    (starts : inWord ∨ chars ≠ [] ∧ chars.head? ≠ some '_') : isWords inWord chars := by
  induction chars generalizing inWord with
  | nil => simpa [isWords] using starts
  | cons first others ih =>
    obtain ⟨firstSnake, othersSnake⟩ := List.forall_mem_cons.1 snake
    obtain ⟨apart, othersSingle⟩ := List.isChain_cons.1 single
    have othersLast : others.getLast? ≠ some '_' := by
      intro same
      rw [List.getLast?_cons, same] at last
      exact last rfl
    by_cases underscore : first = '_'
    · subst underscore
      have open_ : inWord = true := by simpa using starts
      have more : others ≠ [] := by
        rintro rfl
        exact last rfl
      have next : others.head? ≠ some '_' := fun same => apart '_' same ⟨rfl, rfl⟩
      rw [isWords, open_, Bool.true_and]
      exact ih othersSnake othersSingle othersLast false (.inr ⟨more, next⟩)
    · have word : isWordChar first := by
        rw [isSnakeChar, Bool.or_eq_true, beq_iff_eq] at firstSnake
        exact firstSnake.resolve_right underscore
      rw [isWords, word, Bool.true_and]
      · exact ih othersSnake othersSingle othersLast true (.inl rfl)
      · exact underscore

theorem intercalate_cons_append (first : List Char) (rest : List Char) (words : List (List Char)) :
    ['_'].intercalate ((first ++ rest) :: words) = first ++ ['_'].intercalate (rest :: words) := by
  cases words <;> simp [List.intercalate_cons_cons]

/-- What counts as words are words joined by single underscores; in a word its rest comes first. -/
theorem exists_words_of_isWords {inWord : Bool} (accepted : isWords inWord chars) :
    ∃ word words, (inWord ∨ word ≠ []) ∧ (∀ char ∈ word, isWordChar char) ∧
      (∀ word ∈ words, word ≠ [] ∧ ∀ char ∈ word, isWordChar char) ∧
      chars = ['_'].intercalate (word :: words) := by
  fun_induction isWords inWord chars with
  | case1 inWord => exact ⟨[], [], .inl accepted, List.forall_mem_nil _, List.forall_mem_nil _, rfl⟩
  | case2 inWord rest ih =>
    rw [Bool.and_eq_true] at accepted
    obtain ⟨word, words, some_char, wordChars, wordsChars, rfl⟩ := ih accepted.2
    refine ⟨[], word :: words, .inl accepted.1, List.forall_mem_nil _, ?_, ?_⟩
    · exact List.forall_mem_cons.2 ⟨⟨by simpa using some_char, wordChars⟩, wordsChars⟩
    · simp [List.intercalate_cons_cons]
  | case3 inWord char rest _ ih =>
    rw [Bool.and_eq_true] at accepted
    obtain ⟨word, words, -, wordChars, wordsChars, rfl⟩ := ih accepted.2
    refine ⟨char :: word, words, .inr (List.cons_ne_nil _ _),
      List.forall_mem_cons.2 ⟨accepted.1, wordChars⟩, wordsChars, ?_⟩
    exact (intercalate_cons_append [char] word words).symm

namespace IsSnake

theorem isWords (snake : IsSnake chars) (some_char : chars ≠ []) : Naming.isWords false chars :=
  isWords_of_single snake.snake snake.single snake.last false (.inr ⟨some_char, snake.head⟩)

end IsSnake

/-! ## Forms stay as they are -/

theorem spaced_of_noUpper (lower : ∀ char ∈ chars, isUpper char = false) :
    spaced chars = chars := by
  fun_induction spaced chars with
  | case1 left right rest boundary ih =>
    rw [isBoundary, lower right (by simp)] at boundary
    cases boundary
  | case2 left right rest boundary ih =>
    rw [ih fun char member => lower char (List.mem_cons_of_mem _ member)]
  | case3 chars => rfl

theorem joined_of_single (plain : Plain chars) (single : Single chars) {inGap : Bool}
    (starts : inGap → chars.head? ≠ some '_') : joined inGap chars = chars := by
  fun_induction joined inGap chars with
  | case1 => rfl
  | case2 inGap char rest kept ih =>
    have notIn : false = true → rest.head? ≠ some '_' := fun wrong => absurd wrong (by decide)
    rw [ih (List.forall_mem_cons.1 plain).2 (List.isChain_cons.1 single).2 notIn]
  | case3 char rest dropped ih =>
    have underscore := (plain char List.mem_cons_self).resolve_left dropped
    exact absurd (congrArg some underscore) (starts rfl)
  | case4 inGap char rest dropped first ih =>
    obtain ⟨next, restSingle⟩ := List.isChain_cons.1 single
    have underscore := (plain char List.mem_cons_self).resolve_left dropped
    have restStarts : true → rest.head? ≠ some '_' := fun _ same =>
      next '_' same ⟨underscore, rfl⟩
    rw [ih (List.forall_mem_cons.1 plain).2 restSingle restStarts, underscore]

theorem trimmed_of_ends (head : chars.head? ≠ some '_') (last : chars.getLast? ≠ some '_') :
    trimmed chars = chars := by
  have kept {chars : List Char} (head : chars.head? ≠ some '_') :
      chars.dropWhile (· == '_') = chars := by
    cases chars with
    | nil => rfl
    | cons first others =>
      rw [List.dropWhile_cons, if_neg]
      simpa using head
  rw [← List.head?_reverse] at last
  rw [trimmed, kept head, kept last, List.reverse_reverse]

/-- A text that has the form already is its own form. -/
theorem IsSnake.lowerSnake_eq {text : String} (snake : IsSnake text.toList) :
    lowerSnake text = text := by
  have plain : Plain text.toList := fun char member =>
    isKept_of_isSnakeChar (snake.snake char member)
  have lower : ∀ char ∈ text.toList, isUpper char = false := fun char member =>
    forall_kept (P := fun char => isSnakeChar char → isUpper char = false) (by decide)
      (plain char member) (snake.snake char member)
  have starts : false = true → text.toList.head? ≠ some '_' := fun _ => snake.head
  rw [lowerSnake, spaced_of_noUpper lower, joined_of_single plain snake.single starts,
    trimmed_of_ends snake.head snake.last,
    List.map_congr_left fun char member => toLower_of_isSnakeChar (snake.snake char member),
    List.map_id', String.ofList_toList]

/-! ## The form of every name -/

theorem lettersOf_toLower (plain : Plain chars) {part : List Char}
    (kept : chars.filter isKept = part.filter isKept) :
    lettersOf (chars.map Char.toLower) = loweredKept part := by
  rw [lettersOf_map_toLower plain, loweredKept, kept, loweredKept]

theorem separated_iff (left : Char) (between : List Char) (right : Char) (after : List Char) :
    Separated left between right after ↔
      between ≠ [] ∨ isBoundary left right after.head? := by
  cases after <;> simp [Separated, isBoundary, isWordChar] <;> tauto

/-- Where a name goes on from one letter or digit to the next, its form does so too, with an
underscore between them exactly if they belong to different words. -/
theorem exists_lowerSnake {name : String} {before between after : List Char}
    (same : name.toList = before ++ left :: (between ++ right :: after)) (leftKept : isKept left)
    (rightKept : isKept right) (dropped : ∀ char ∈ between, ¬ isKept char) : ∃ front back,
      (lowerSnake name).toList = front ++ left.toLower ::
        ((if Separated left between right after then ['_'] else []) ++ right.toLower :: back) ∧
      lettersOf front = loweredKept before ∧ lettersOf back = loweredKept after := by
  obtain ⟨front, back, spacedSame, frontKept, backKept⟩ :=
    exists_spaced before left dropped right after
  generalize isGap : (if between = [] ∧ isBoundary left right after.head? then ['_'] else between) =
    gap at spacedSame
  have gapDropped : ∀ char ∈ gap, ¬ isKept char := by
    rw [← isGap]
    split
    · exact List.forall_mem_singleton.2 not_isKept_underscore
    · exact dropped
  have gapEmpty : (gap = [] ∨ false = true) ↔ ¬ Separated left between right after := by
    rw [← isGap, separated_iff]
    by_cases adjacent : between = [] <;> by_cases boundary : isBoundary left right after.head? <;>
      simp [adjacent, boundary]
  have joinedSame : joined false (spaced name.toList) = joined false front ++
      left :: ((if Separated left between right after then ['_'] else []) ++
        right :: joined false back) := by
    -- Of what spacing leaves between the two, joining makes at most one underscore.
    rw [same, spacedSame, joined_append leftKept, joined_gap gapDropped rightKept,
      if_congr gapEmpty rfl rfl, ite_not]
  have trimmedSame := trimmed_append (ne_underscore_of_isKept leftKept)
    (ne_underscore_of_isKept rightKept) (joined false front)
    (if Separated left between right after then ['_'] else []) (joined false back)
  refine ⟨((joined false front).dropWhile (· == '_')).map Char.toLower,
    ((joined false back).rdropWhile (· == '_')).map Char.toLower, ?_, ?_, ?_⟩
  · rw [toList_lowerSnake, joinedSame, trimmedSame]
    split <;> simp
  · refine lettersOf_toLower (fun char member => ?_) ?_
    · exact plain_joined false front char ((List.dropWhile_suffix _).subset member)
    · rw [filter_dropWhile, filter_joined, frontKept]
  · have atFront : (joined false back).rdropWhile (· == '_') <+: joined false back :=
      List.rdropWhile_prefix ..
    refine lettersOf_toLower (fun char member => ?_) ?_
    · exact plain_joined false back char (atFront.subset member)
    · rw [filter_rdropWhile, filter_joined, backKept]

theorem lettersOf_lowerSnake (name : String) :
    lettersOf (lowerSnake name).toList = loweredKept name.toList := by
  rw [toList_lowerSnake]
  refine lettersOf_toLower (fun char member => ?_) ?_
  · exact plain_joined _ _ char (mem_of_mem_trimmed member)
  · rw [trimmed_eq, filter_rdropWhile, filter_dropWhile, filter_joined, filter_spaced]

theorem lowerSnake_eq_nil_iff (name : String) :
    (lowerSnake name).toList = [] ↔ ∀ char ∈ name.toList, ¬ isKept char := by
  rw [← List.head?_eq_none_iff, head?_lowerSnake, Option.map_eq_none_iff, List.find?_eq_none]

/-- Words count as lower-snake; there is no line feed at their end. -/
theorem IsSnake.isLowerSnake_iff {text : String} (snake : IsSnake text.toList) :
    isLowerSnake text ↔ text.toList ≠ [] := by
  have noFeed : text.toList.getLast? ≠ some '\n' := fun last =>
    absurd (snake.snake '\n' (List.mem_of_getLast? last)) (by decide)
  rw [isLowerSnake, if_neg noFeed]
  constructor
  · intro accepted empty
    rw [empty] at accepted
    cases accepted
  · exact snake.isWords

/-- The lower-snake form of a name keeps its ASCII letters and digits in their order, in lower case,
and is empty if there are none. Otherwise it consists of words joined by single underscores, so it
counts as lower-snake; the words end where letters or digits of the name are separated. A form is
its own form. -/
theorem lowerSnake_isFormOf (name : String) :
    IsFormOf name.toList (lowerSnake name).toList ∧
    (isLowerSnake (lowerSnake name) ↔ (lowerSnake name).toList ≠ []) ∧
    lowerSnake (lowerSnake name) = lowerSnake name := by
  have snake := isSnake_lowerSnake name
  refine ⟨⟨lowerSnake_eq_nil_iff name, fun some_char => ?_, lettersOf_lowerSnake name, ?_⟩,
    snake.isLowerSnake_iff, snake.lowerSnake_eq⟩
  · obtain ⟨word, words, some_letter, wordChars, wordsChars, same⟩ :=
      exists_words_of_isWords (snake.isWords some_char)
    exact ⟨word :: words, List.cons_ne_nil _ _,
      List.forall_mem_cons.2 ⟨⟨by simpa using some_letter, wordChars⟩, wordsChars⟩, same⟩
  · intro before left between right after same leftKept rightKept dropped
    exact exists_lowerSnake same leftKept rightKept dropped

/-- Neither an acronym nor a run of other characters leaves more than one underscore. -/
example : lowerSnake "__HTTPHeader--v2Id" = "http_header_v2_id" := by decide

end Fieldwise.Naming
