import Fieldwise.Type.Token
import Mathlib.Data.List.Basic
import Mathlib.Data.List.TakeWhile

/-! # Words of type texts

`Token.Word` is the normal form of a word: a dotted name without blanks, or one literal. Scanning
yields words only (`word_of_scanOne?`), and a word that is followed by blanks, a mark or nothing is
scanned as it stands (`scanOne?_word`). Both rest on the character classes being apart: what
continues a word is neither blank nor a mark. -/

namespace Fieldwise.Token

/-! ## Character classes -/

theorem isNameStart_iff (char : Char) : isNameStart char ↔
    (97 ≤ char.toNat ∧ char.toNat ≤ 122) ∨ (65 ≤ char.toNat ∧ char.toNat ≤ 90) ∨
      char.toNat = 95 := by
  simp [isNameStart, Char.le_def, UInt32.le_iff_toNat_le, Char.ext_iff, ← UInt32.toNat_inj, or_assoc]

theorem isNamePart_iff (char : Char) : isNamePart char ↔
    isNameStart char ∨ (48 ≤ char.toNat ∧ char.toNat ≤ 57) := by
  simp [isNamePart, Char.le_def, UInt32.le_iff_toNat_le]

theorem isBlank_iff (char : Char) : Text.isBlank char ↔
    char.toNat = 32 ∨ (9 ≤ char.toNat ∧ char.toNat ≤ 13) ∨
      (28 ≤ char.toNat ∧ char.toNat ≤ 31) ∨ char ∈ Text.wideBlanks := by
  simp [Text.isBlank, Text.isSeparator, Char.le_def, UInt32.le_iff_toNat_le, Char.ext_iff,
    ← UInt32.toNat_inj, or_assoc]

theorem isDigit_cases {char : Char} (digit : Text.isDigit char) :
    (48 ≤ char.toNat ∧ char.toNat ≤ 57) ∨
      ∃ first ∈ Text.wideZeros, first ≤ char.toNat ∧ char.toNat < first + 10 := by
  rw [Text.isDigit, Text.digitValue?] at digit
  split at digit
  · split at digit
    · rename_i within
      simp only [Char.le_def, UInt32.le_iff_toNat_le] at within
      exact .inl within
    · cases digit
  · rw [Option.isSome_map, List.find?_isSome] at digit
    obtain ⟨first, member, within⟩ := digit
    exact .inr ⟨first, member, by simpa using within⟩

theorem wideBlanks_wide : ∀ char ∈ Text.wideBlanks, 128 ≤ char.toNat := by
  have all : Text.wideBlanks.all fun char => 128 ≤ char.toNat := by decide
  simpa only [List.all_eq_true, decide_eq_true_eq] using all

/-- The blocks of digits beyond ASCII hold no blanks. -/
theorem wideZeros_apart : ∀ first ∈ Text.wideZeros, 128 ≤ first ∧
    ∀ char ∈ Text.wideBlanks, char.toNat < first ∨ first + 10 ≤ char.toNat := by
  have all : Text.wideZeros.all fun first => 128 ≤ first && Text.wideBlanks.all fun char =>
      char.toNat < first || first + 10 ≤ char.toNat := by decide +kernel
  simpa only [List.all_eq_true, Bool.and_eq_true, Bool.or_eq_true, decide_eq_true_eq] using all

theorem not_isBlank_of_isNamePart {char : Char} (part : isNamePart char) :
    Text.isBlank char = false := by
  rw [isNamePart_iff, isNameStart_iff] at part
  rw [Bool.eq_false_iff, Ne, isBlank_iff]
  rintro (blank | blank | blank | wide)
  · omega
  · omega
  · omega
  · have := wideBlanks_wide char wide
    omega

theorem not_isNamePart_of_isBlank {char : Char} (blank : Text.isBlank char) :
    isNamePart char = false := by
  rw [Bool.eq_false_iff]
  intro part
  rw [not_isBlank_of_isNamePart part] at blank
  cases blank

theorem not_isBlank_of_isDigit {char : Char} (digit : Text.isDigit char) :
    Text.isBlank char = false := by
  rw [Bool.eq_false_iff, Ne, isBlank_iff]
  rcases isDigit_cases digit with ascii | ⟨first, member, within⟩
  · rintro (blank | blank | blank | wide)
    · omega
    · omega
    · omega
    · have := wideBlanks_wide char wide
      omega
  · obtain ⟨bound, apart⟩ := wideZeros_apart first member
    rintro (blank | blank | blank | wide)
    · omega
    · omega
    · omega
    · have := apart char wide
      omega

theorem not_isNameStart_of_isDigit {char : Char} (digit : Text.isDigit char) :
    isNameStart char = false := by
  rw [Bool.eq_false_iff, Ne, isNameStart_iff]
  rcases isDigit_cases digit with ascii | ⟨first, member, within⟩
  · omega
  · obtain ⟨bound, -⟩ := wideZeros_apart first member
    omega

/-- A mark continues no word and is not blank. -/
theorem mark_apart (mark : Mark) : isNamePart mark.char = false ∧
    Text.isDigit mark.char = false ∧ Text.isBlank mark.char = false := by
  cases mark <;> decide

theorem char_of_ofChar? {char : Char} {mark : Mark} (found : Mark.ofChar? char = some mark) :
    char = mark.char := by
  unfold Mark.ofChar? at found
  split at found <;> cases found <;> rfl

/-! ## Normal forms -/

/-- Segments of letters, digits and underscores, joined by single dots; none begins with a digit. -/
inductive DottedName : List Char → Prop
  | segment {first : Char} {rest : List Char} (start : isNameStart first)
      (parts : ∀ char ∈ rest, isNamePart char) : DottedName (first :: rest)
  | dotted {first : Char} {rest more : List Char} (start : isNameStart first)
      (parts : ∀ char ∈ rest, isNamePart char) (further : DottedName more) :
      DottedName (first :: rest ++ '.' :: more)

/-- A way to write a dotted name: there may be blanks around its dots. The name comes first, then
what is written. -/
inductive NameLayout : List Char → List Char → Prop
  | segment {first : Char} {rest : List Char} (start : isNameStart first)
      (parts : ∀ char ∈ rest, isNamePart char) : NameLayout (first :: rest) (first :: rest)
  | dotted {first : Char} {rest more before after text : List Char} (start : isNameStart first)
      (parts : ∀ char ∈ rest, isNamePart char) (beforeBlank : ∀ char ∈ before, Text.isBlank char)
      (afterBlank : ∀ char ∈ after, Text.isBlank char) (further : NameLayout more text) :
      NameLayout (first :: rest ++ '.' :: more)
        (first :: rest ++ (before ++ '.' :: (after ++ text)))

/-- Digits, at most with a point and more digits after them. -/
inductive Number : List Char → Prop
  | whole {digits : List Char} (some_digit : digits ≠ [])
      (all_digits : ∀ char ∈ digits, Text.isDigit char) : Number digits
  | decimal {digits fraction : List Char} (some_digit : digits ≠ [])
      (all_digits : ∀ char ∈ digits, Text.isDigit char) (some_fraction : fraction ≠ [])
      (all_fraction : ∀ char ∈ fraction, Text.isDigit char) : Number (digits ++ '.' :: fraction)

/-- A text in quotes that does not hold the quote, a number with or without a sign, or three
points. -/
inductive Literal : List Char → Prop
  | quoted {quote : Char} {content : List Char} (isQuote : quote = '\'' ∨ quote = '"')
      (unquoted : quote ∉ content) : Literal (quote :: content ++ [quote])
  | number {digits : List Char} (number : Number digits) : Literal digits
  | negative {digits : List Char} (number : Number digits) : Literal ('-' :: digits)
  | points : Literal ['.', '.', '.']

/-- The normal form of a word: a dotted name without blanks or a literal. -/
inductive Word : List Char → Prop
  | name {chars : List Char} (name : DottedName chars) : Word chars
  | literal {chars : List Char} (literal : Literal chars) : Word chars

/-- Nothing that continues a word follows: blanks, then a mark or the end. -/
def Ends (rest : List Char) : Prop :=
  ∀ char ∈ (Text.trimStart rest).head?, ∃ mark : Mark, char = mark.char

theorem isNamePart_of_isNameStart {char : Char} (start : isNameStart char) : isNamePart char := by
  rw [isNamePart, start, Bool.true_or]

/-- Two dotted names with a point between them are one. -/
theorem DottedName.append {chars others : List Char} (first : DottedName chars)
    (second : DottedName others) : DottedName (chars ++ '.' :: others) := by
  induction first with
  | segment start parts => exact .dotted start parts second
  | dotted start parts _ ih =>
    rw [List.append_assoc, List.cons_append]
    exact .dotted start parts ih

theorem DottedName.not_blank {chars : List Char} (name : DottedName chars) :
    ∀ char ∈ chars, Text.isBlank char = false := by
  induction name with
  | segment start parts =>
    exact List.forall_mem_cons.2 ⟨not_isBlank_of_isNamePart (isNamePart_of_isNameStart start),
      fun char member => not_isBlank_of_isNamePart (parts char member)⟩
  | dotted start parts _ ih =>
    refine List.forall_mem_append.2 ⟨List.forall_mem_cons.2
      ⟨not_isBlank_of_isNamePart (isNamePart_of_isNameStart start),
        fun char member => not_isBlank_of_isNamePart (parts char member)⟩, ?_⟩
    exact List.forall_mem_cons.2 ⟨by decide, ih⟩

theorem Number.not_blank {chars : List Char} (number : Number chars) :
    ∀ char ∈ chars, Text.isBlank char = false := by
  cases number with
  | whole _ digits => exact fun char member => not_isBlank_of_isDigit (digits char member)
  | decimal _ digits _ fraction =>
    refine List.forall_mem_append.2
      ⟨fun char member => not_isBlank_of_isDigit (digits char member), ?_⟩
    exact List.forall_mem_cons.2
      ⟨by decide, fun char member => not_isBlank_of_isDigit (fraction char member)⟩

theorem DottedName.ne_nil {chars : List Char} (name : DottedName chars) : chars ≠ [] := by
  cases name <;> simp

theorem Number.ne_nil {chars : List Char} (number : Number chars) : chars ≠ [] := by
  cases number with
  | whole some_digit _ => exact some_digit
  | decimal _ _ _ _ => simp

theorem Word.ne_nil {chars : List Char} (word : Word chars) : chars ≠ [] := by
  cases word with
  | name name => exact name.ne_nil
  | literal literal =>
    cases literal with
    | number number => exact number.ne_nil
    | quoted _ _ => simp
    | negative _ => simp
    | points => simp

/-- A word has no blank at either end. -/
theorem Word.not_blank_ends {chars : List Char} (word : Word chars) :
    (∀ char ∈ chars.head?, Text.isBlank char = false) ∧
      ∀ char ∈ chars.getLast?, Text.isBlank char = false := by
  have inside (all : ∀ char ∈ chars, Text.isBlank char = false) :
      (∀ char ∈ chars.head?, Text.isBlank char = false) ∧
        ∀ char ∈ chars.getLast?, Text.isBlank char = false :=
    ⟨fun char member => all char (List.mem_of_mem_head? member),
      fun char member => all char (List.mem_of_mem_getLast? member)⟩
  cases word with
  | name name => exact inside name.not_blank
  | literal literal =>
    cases literal with
    | quoted isQuote _ =>
      have quote_apart : Text.isBlank '\'' = false ∧ Text.isBlank '"' = false := by decide
      rcases isQuote with rfl | rfl
      · simp [quote_apart.1, List.getLast?_cons]
      · simp [quote_apart.2, List.getLast?_cons]
    | number number => exact inside number.not_blank
    | negative number => exact inside (List.forall_mem_cons.2 ⟨by decide, number.not_blank⟩)
    | points => exact inside (List.forall_mem_replicate (n := 3).2 (.inr (by decide)))

/-! ## Scanning a word as it stands -/

variable {rest : List Char}

theorem takeWhile_append_of_stop {p : Char → Bool} (chars : List Char)
    (stop : ∀ char ∈ rest.head?, p char = false) :
    (chars ++ rest).takeWhile p = chars.takeWhile p := by
  induction chars with
  | nil =>
    cases rest with
    | nil => rfl
    | cons char rest => simp [stop char rfl]
  | cons char others ih => rw [List.cons_append, List.takeWhile_cons, List.takeWhile_cons, ih]

theorem dropWhile_append_of_stop {p : Char → Bool} (chars : List Char)
    (stop : ∀ char ∈ rest.head?, p char = false) :
    (chars ++ rest).dropWhile p = chars.dropWhile p ++ rest := by
  induction chars with
  | nil =>
    cases rest with
    | nil => rfl
    | cons char rest => simp [stop char rfl]
  | cons char others ih =>
    rw [List.cons_append, List.dropWhile_cons, List.dropWhile_cons, ih]
    split <;> rfl

/-- What passes is taken as a whole if the next character does not pass. -/
theorem span_append_of_stop {p : Char → Bool} {chars : List Char} (all : ∀ char ∈ chars, p char)
    (stop : ∀ char ∈ rest.head?, p char = false) :
    (chars ++ rest).takeWhile p = chars ∧ (chars ++ rest).dropWhile p = rest := by
  rw [takeWhile_append_of_stop chars stop, dropWhile_append_of_stop chars stop,
    List.takeWhile_eq_self_iff.2 all, List.dropWhile_eq_nil_iff.2 all]
  exact ⟨rfl, rfl⟩

theorem trimStart_of_head {chars : List Char} (head : ∀ char ∈ chars.head?, Text.isBlank char = false) :
    Text.trimStart chars = chars := by
  cases chars with
  | nil => rfl
  | cons char rest => simp [Text.trimStart, head char rfl]

theorem Ends.head {char : Char} (ends : Ends rest) (first : char ∈ rest.head?) :
    Text.isBlank char ∨ ∃ mark : Mark, char = mark.char := by
  cases blank : Text.isBlank char with
  | true => exact .inl rfl
  | false =>
    have whole : Text.trimStart rest = rest := by
      apply trimStart_of_head
      intro other otherFirst
      rwa [← Option.mem_unique first otherFirst]
    rw [Ends, whole] at ends
    exact .inr (ends char first)

theorem Ends.not_namePart (ends : Ends rest) : ∀ char ∈ rest.head?, isNamePart char = false := by
  intro char first
  rcases ends.head first with blank | ⟨mark, rfl⟩
  · exact not_isNamePart_of_isBlank blank
  · exact (mark_apart mark).1

theorem Ends.not_digit (ends : Ends rest) : ∀ char ∈ rest.head?, Text.isDigit char = false := by
  intro char first
  rcases ends.head first with blank | ⟨mark, rfl⟩
  · rw [Bool.eq_false_iff]
    intro digit
    rw [not_isBlank_of_isDigit digit] at blank
    cases blank
  · exact (mark_apart mark).2.1

theorem Ends.afterDot? (ends : Ends rest) : afterDot? rest = none := by
  unfold Token.afterDot?
  split
  · rename_i tail dotted
    obtain ⟨mark, same⟩ := ends '.' (by rw [dotted]; rfl)
    cases mark <;> cases same
  · rfl

theorem Ends.moreSegments (ends : Ends rest) : moreSegments rest = ([], rest) := by
  rw [Token.moreSegments]
  split
  · rfl
  · rename_i found
    rw [ends.afterDot?] at found
    cases found

theorem NameLayout.dottedName {name text : List Char} (layout : NameLayout name text) :
    DottedName name := by
  induction layout with
  | segment start parts => exact .segment start parts
  | dotted start parts _ _ _ ih => exact .dotted start parts ih

/-- A dotted name can be written without blanks. -/
theorem DottedName.layout {name : List Char} (dotted : DottedName name) : NameLayout name name := by
  induction dotted with
  | segment start parts => exact .segment start parts
  | dotted start parts _ ih =>
    exact .dotted start parts (List.forall_mem_nil _) (List.forall_mem_nil _) ih

/-- A dot is found through the blanks around it, if a segment of a name follows. -/
theorem afterDot?_of_blanks {before after : List Char} {next : Char}
    (beforeBlank : ∀ char ∈ before, Text.isBlank char)
    (afterBlank : ∀ char ∈ after, Text.isBlank char) (start : isNameStart next)
    (others : List Char) :
    afterDot? (before ++ '.' :: (after ++ next :: others)) = some (next :: others) := by
  have nextSeen : Text.isBlank next = false :=
    not_isBlank_of_isNamePart (isNamePart_of_isNameStart start)
  have atDot : Text.trimStart (before ++ '.' :: (after ++ next :: others)) =
      '.' :: (after ++ next :: others) :=
    (span_append_of_stop beforeBlank fun char same => by cases same; decide).2
  have atNext : Text.trimStart (after ++ next :: others) = next :: others :=
    (span_append_of_stop afterBlank fun char same => by cases same; exact nextSeen).2
  simp [afterDot?, atDot, atNext, start]

/-- After its first letter a name is read to its end: the rest of its segment, then the others. The
blanks around its dots are dropped. -/
theorem NameLayout.scan {name text : List Char} (layout : NameLayout name text) (ends : Ends rest) :
    ∃ first nameTail tail, name = first :: nameTail ∧ text = first :: tail ∧ isNameStart first ∧
      (tail ++ rest).takeWhile isNamePart ++
          (Token.moreSegments ((tail ++ rest).dropWhile isNamePart)).1 = nameTail ∧
        (Token.moreSegments ((tail ++ rest).dropWhile isNamePart)).2 = rest := by
  induction layout with
  | @segment first tail start parts =>
    refine ⟨first, tail, tail, rfl, rfl, start, ?_⟩
    obtain ⟨taken, left⟩ := span_append_of_stop parts ends.not_namePart
    rw [taken, left, ends.moreSegments]
    simp
  | @dotted first tail more before after text start parts beforeBlank afterBlank further ih =>
    obtain ⟨next, nameTail, others, rfl, rfl, nextStart, others_eq, rest_eq⟩ := ih
    refine ⟨first, tail ++ '.' :: next :: nameTail,
      tail ++ (before ++ '.' :: (after ++ next :: others)), rfl, rfl, start, ?_⟩
    have stop : ∀ char ∈ (before ++ '.' :: (after ++ next :: (others ++ rest))).head?,
        isNamePart char = false := by
      intro char same
      cases before with
      | nil => cases same; decide
      | cons blank blanks =>
        cases same
        exact not_isNamePart_of_isBlank (beforeBlank _ List.mem_cons_self)
    have nextPart : isNamePart next := isNamePart_of_isNameStart nextStart
    have whole : tail ++ (before ++ '.' :: (after ++ next :: others)) ++ rest =
        tail ++ (before ++ '.' :: (after ++ next :: (others ++ rest))) := by simp
    obtain ⟨taken, left⟩ := span_append_of_stop parts stop
    rw [whole, taken, left, Token.moreSegments]
    split
    · rename_i missing
      rw [afterDot?_of_blanks beforeBlank afterBlank nextStart] at missing
      cases missing
    · rename_i found same
      rw [afterDot?_of_blanks beforeBlank afterBlank nextStart] at same
      obtain rfl := Option.some.inj same
      simp only [List.dropWhile_cons, List.takeWhile_cons, nextPart, if_true]
      exact ⟨by rw [List.cons_append, List.cons_append, others_eq], rest_eq⟩

/-- A name that is written without blanks is read as it stands. -/
theorem DottedName.scan {name : List Char} (dotted : DottedName name) (ends : Ends rest) :
    ∃ first tail, name = first :: tail ∧ isNameStart first ∧
      (tail ++ rest).takeWhile isNamePart ++
          (Token.moreSegments ((tail ++ rest).dropWhile isNamePart)).1 = tail ∧
        (Token.moreSegments ((tail ++ rest).dropWhile isNamePart)).2 = rest := by
  obtain ⟨first, _, tail, rfl, same, scanned⟩ := dotted.layout.scan ends
  cases same
  exact ⟨first, _, rfl, scanned⟩

theorem Number.scan {digits : List Char} (number : Number digits) (ends : Ends rest) :
    number? (digits ++ rest) = some (digits, rest) := by
  have noPoint : ∀ char ∈ rest.head?, char ≠ '.' := by
    rintro char first rfl
    rcases ends.head first with blank | ⟨mark, same⟩
    · exact absurd blank (by decide)
    · cases mark <;> cases same
  cases number with
  | whole some_digit all_digits =>
    have noFraction : decimalPart rest = ([], rest) := by
      unfold decimalPart
      split
      · exact absurd rfl (noPoint '.' rfl)
      · rfl
    obtain ⟨taken, left⟩ := span_append_of_stop all_digits ends.not_digit
    rw [number?, taken, left, noFraction]
    simp [some_digit]
  | @decimal digits fraction some_digit all_digits some_fraction all_fraction =>
    have stop : ∀ char ∈ ('.' :: (fraction ++ rest)).head?, Text.isDigit char = false := by
      intro char same
      cases same
      decide
    obtain ⟨first, others, rfl⟩ := List.exists_cons_of_ne_nil some_fraction
    have firstDigit : Text.isDigit first := all_fraction first List.mem_cons_self
    have fractionPart : decimalPart ('.' :: (first :: others ++ rest)) =
        ('.' :: first :: others, rest) := by
      obtain ⟨taken, left⟩ := span_append_of_stop all_fraction ends.not_digit
      rw [decimalPart, taken, left]
      simp [firstDigit]
    obtain ⟨taken, left⟩ := span_append_of_stop all_digits stop
    rw [number?, List.append_assoc, List.cons_append, taken, left, fractionPart]
    simp [some_digit]

theorem quotedLiteral?_content {quote : Char} {content : List Char} (unquoted : quote ∉ content) :
    quotedLiteral? quote (content ++ quote :: rest) = some (quote :: content ++ [quote], rest) := by
  have inside : ∀ char ∈ content, (char != quote) = true := by
    intro char member
    rw [bne_iff_ne]
    rintro rfl
    exact unquoted member
  have stop : ∀ char ∈ (quote :: rest).head?, (char != quote) = false := by
    intro char same
    cases same
    simp
  obtain ⟨taken, left⟩ := span_append_of_stop inside stop
  rw [quotedLiteral?, taken, left]

/-- A number is no other literal: none of them begins with a digit. -/
theorem literal?_of_digit {first : Char} (digit : Text.isDigit first) (rest : List Char) :
    literal? (first :: rest) = number? (first :: rest) := by
  unfold literal?
  split
  · rename_i same
    cases same
    exact absurd digit (by decide)
  · rename_i same
    cases same
    exact absurd digit (by decide)
  · rename_i same
    cases same
    exact absurd digit (by decide)
  · rename_i same
    cases same
    exact absurd digit (by decide)
  · rfl

theorem Number.head_digit {digits : List Char} (number : Number digits) :
    ∃ first others, digits = first :: others ∧ Text.isDigit first := by
  cases number with
  | whole some_digit all_digits =>
    obtain ⟨first, others, rfl⟩ := List.exists_cons_of_ne_nil some_digit
    exact ⟨first, others, rfl, all_digits first List.mem_cons_self⟩
  | decimal some_digit all_digits _ _ =>
    obtain ⟨first, others, rfl⟩ := List.exists_cons_of_ne_nil some_digit
    exact ⟨first, _, rfl, all_digits first List.mem_cons_self⟩

theorem Literal.scan {chars : List Char} (literal : Literal chars) (ends : Ends rest) :
    literal? (chars ++ rest) = some (chars, rest) := by
  cases literal with
  | quoted isQuote unquoted =>
    rcases isQuote with rfl | rfl
    · simpa [literal?] using quotedLiteral?_content unquoted
    · simpa [literal?] using quotedLiteral?_content unquoted
  | number number =>
    obtain ⟨first, others, rfl, digit⟩ := number.head_digit
    rw [List.cons_append, literal?_of_digit digit, ← List.cons_append, number.scan ends]
  | negative number =>
    rw [List.cons_append, literal?, number.scan ends]
    · rfl
  | points => rfl

theorem Literal.not_nameStart {first : Char} {others : List Char}
    (literal : Literal (first :: others)) : isNameStart first = false := by
  generalize same : first :: others = chars at literal
  cases literal with
  | quoted isQuote _ =>
    cases same
    rcases isQuote with rfl | rfl <;> decide
  | number number =>
    subst same
    obtain ⟨_, _, same, digit⟩ := number.head_digit
    cases same
    exact not_isNameStart_of_isDigit digit
  | negative _ => cases same; decide
  | points => cases same; decide

/-- What is scanned from a word that ends is the word. -/
theorem scanOne?_word {chars : List Char} (isWord : Word chars) (ends : Ends rest) :
    scanOne? (chars ++ rest) = some (word (String.ofList chars), rest) := by
  cases isWord with
  | name name =>
    obtain ⟨first, tail, rfl, start, tail_eq, rest_eq⟩ := name.scan ends
    rw [List.cons_append, scanOne?, if_pos start]
    simp only [List.cons_append, tail_eq, rest_eq]
  | literal literal =>
    obtain ⟨first, others, rfl⟩ := List.exists_cons_of_ne_nil (Word.literal literal).ne_nil
    rw [List.cons_append, scanOne?, literal.not_nameStart, ← List.cons_append, literal.scan ends]
    rfl

theorem scanOne?_mark (mark : Mark) (rest : List Char) :
    scanOne? (mark.char :: rest) = some (.mark mark, rest) := by
  cases mark <;> rfl

end Fieldwise.Token
