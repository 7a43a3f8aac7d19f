import Fieldwise.Proofs.Type.Scanning
import Fieldwise.Proofs.Validation

/-! # Texts as parts of longer texts

What a text is scanned into does not change when a mark or the end follows, with blanks before it:
no token reaches beyond the text (`scanOne?_append`), so the tokens of the text come first and those
of what follows come after them (`scanFrom_append`). A text without its trailing blanks thus spells
the tokens that it is scanned into (`Spells.of_scan`). -/

namespace Fieldwise.Token

variable {chars rest : List Char}

/-! ## One token -/

theorem trimStart_append_eq {first : Char} {others : List Char}
    (trimmed : Text.trimStart chars = first :: others) (rest : List Char) :
    Text.trimStart (chars ++ rest) = first :: (others ++ rest) := by
  have trimmed : chars.dropWhile Text.isBlank = first :: others := trimmed
  rw [Text.trimStart, List.dropWhile_append, trimmed]
  rfl

theorem trimStart_append_nil (trimmed : Text.trimStart chars = []) (rest : List Char) :
    Text.trimStart (chars ++ rest) = Text.trimStart rest := by
  have trimmed : chars.dropWhile Text.isBlank = [] := trimmed
  rw [Text.trimStart, List.dropWhile_append, trimmed]
  rfl

/-- No segment of a name starts after the blanks that follow. -/
theorem Ends.not_nameStart (ends : Ends rest) :
    ((Text.trimStart rest).head?.map isNameStart).getD false = false := by
  cases first : (Text.trimStart rest).head? with
  | none => rfl
  | some char =>
    obtain ⟨mark, rfl⟩ := ends char first
    cases mark <;> rfl

theorem afterDot?_of_dot {others : List Char} (dotted : Text.trimStart chars = '.' :: others) :
    afterDot? chars = if ((Text.trimStart others).head?.map isNameStart).getD false then
      some (Text.trimStart others) else none := by
  unfold afterDot?
  rw [dotted]
  rfl

theorem afterDot?_append (ends : Ends rest) (chars : List Char) :
    afterDot? (chars ++ rest) = (afterDot? chars).map (· ++ rest) := by
  cases trimmed : Text.trimStart chars with
  | nil =>
    have same : afterDot? (chars ++ rest) = afterDot? rest := by
      rw [afterDot?, afterDot?, trimStart_append_nil trimmed]
    rw [same, ends.afterDot?, afterDot?, trimmed]
    rfl
  | cons first others =>
    have appended := trimStart_append_eq trimmed rest
    by_cases dot : first = '.'
    · subst dot
      rw [afterDot?_of_dot trimmed, afterDot?_of_dot appended]
      cases inner : Text.trimStart others with
      | nil =>
        rw [trimStart_append_nil inner, ends.not_nameStart]
        rfl
      | cons second more =>
        rw [trimStart_append_eq inner, List.head?_cons, List.head?_cons]
        split <;> rfl
    · simp [afterDot?, trimmed, appended, dot]

theorem moreSegments_append (ends : Ends rest) (chars : List Char) :
    moreSegments (chars ++ rest) = ((moreSegments chars).1, (moreSegments chars).2 ++ rest) := by
  fun_induction moreSegments chars with
  | case1 chars found =>
    have none : afterDot? (chars ++ rest) = none := by
      rw [afterDot?_append ends, found]
      rfl
    rw [moreSegments]
    split
    · rfl
    · rename_i some
      rw [none] at some
      cases some
  | case2 chars found isFound more tail split ih =>
    have some : afterDot? (chars ++ rest) = some (found ++ rest) := by
      rw [afterDot?_append ends, isFound]
      rfl
    rw [split] at ih
    rw [moreSegments]
    split
    · rename_i none
      rw [some] at none
      cases none
    · rename_i other same
      rw [some] at same
      obtain rfl := Option.some.inj same
      rw [takeWhile_append_of_stop _ ends.not_namePart,
        dropWhile_append_of_stop _ ends.not_namePart, ih]

/-- Neither a point nor a digit follows, so a number does not go on. -/
theorem Ends.decimalPart (ends : Ends rest) : decimalPart rest = ([], rest) := by
  unfold Token.decimalPart
  split
  · rcases ends.head rfl with blank | ⟨mark, same⟩
    · exact absurd blank (by decide)
    · cases mark <;> cases same
  · rfl

theorem Ends.head_not_digit (ends : Ends rest) :
    (rest.head?.map Text.isDigit).getD false = false := by
  cases first : rest.head? with
  | none => rfl
  | some char => exact ends.not_digit char first

theorem decimalPart_append (ends : Ends rest) (chars : List Char) :
    decimalPart (chars ++ rest) = ((decimalPart chars).1, (decimalPart chars).2 ++ rest) := by
  cases chars with
  | nil => exact ends.decimalPart
  | cons first others =>
    by_cases dot : first = '.'
    · subst dot
      rw [List.cons_append, decimalPart, decimalPart, takeWhile_append_of_stop _ ends.not_digit,
        dropWhile_append_of_stop _ ends.not_digit]
      cases others with
      | nil =>
        rw [List.nil_append, ends.head_not_digit]
        rfl
      | cons second more =>
        rw [List.cons_append, List.head?_cons, List.head?_cons]
        split <;> rfl
    · simp [decimalPart, dot]

theorem number?_append (ends : Ends rest) (chars : List Char) :
    number? (chars ++ rest) =
      (number? chars).map fun found => (found.1, found.2 ++ rest) := by
  rw [number?, number?, takeWhile_append_of_stop _ ends.not_digit,
    dropWhile_append_of_stop _ ends.not_digit, decimalPart_append ends]
  dsimp only
  split <;> rfl

theorem quotedLiteral?_append {quote : Char} {text tail : List Char}
    (found : quotedLiteral? quote chars = some (text, tail)) (rest : List Char) :
    quotedLiteral? quote (chars ++ rest) = some (text, tail ++ rest) := by
  rw [quotedLiteral?] at found
  split at found
  · cases found
  · rename_i mark others closed
    obtain ⟨rfl, rfl⟩ := Prod.mk.inj (Option.some.inj found)
    have shorter : (chars.takeWhile (· != quote)).length ≠ chars.length := by
      intro whole
      have cut := congrArg List.length
        (List.takeWhile_append_dropWhile (p := (· != quote)) (l := chars))
      rw [List.length_append, closed, List.length_cons] at cut
      omega
    rw [quotedLiteral?, List.dropWhile_append, closed, List.takeWhile_append, if_neg shorter]
    rfl

theorem head_digit_of_number? {text tail : List Char}
    (found : number? chars = some (text, tail)) :
    ∃ first others, chars = first :: others ∧ Text.isDigit first := by
  cases chars with
  | nil => cases found
  | cons first others =>
    refine ⟨first, others, rfl, ?_⟩
    by_contra noDigit
    rw [number?, List.takeWhile_cons_of_neg noDigit] at found
    cases found

theorem literal?_append (ends : Ends rest) {text tail : List Char}
    (found : literal? chars = some (text, tail)) :
    literal? (chars ++ rest) = some (text, tail ++ rest) := by
  rw [literal?.eq_def] at found
  split at found
  · exact quotedLiteral?_append found rest
  · exact quotedLiteral?_append found rest
  · cases found
    rfl
  · rename_i digits
    obtain ⟨⟨number, tail⟩, isNumber, ⟨⟩⟩ := Option.map_eq_some_iff.1 found
    rw [List.cons_append, literal?, number?_append ends, isNumber]
    rfl
  · obtain ⟨first, others, rfl, digit⟩ := head_digit_of_number? found
    rw [List.cons_append, literal?_of_digit digit, ← List.cons_append, number?_append ends, found]
    rfl

/-- A token is the same if nothing follows the text that could continue it. -/
theorem scanOne?_append (ends : Ends rest) {token : Token} {tail : List Char}
    (found : scanOne? chars = some (token, tail)) :
    scanOne? (chars ++ rest) = some (token, tail ++ rest) := by
  cases chars with
  | nil => cases found
  | cons first others =>
    rw [scanOne?] at found
    split at found
    · rename_i start
      obtain ⟨rfl, rfl⟩ := Prod.mk.inj (Option.some.inj found)
      rw [List.cons_append, scanOne?, if_pos start, takeWhile_append_of_stop _ ends.not_namePart,
        dropWhile_append_of_stop _ ends.not_namePart, moreSegments_append ends]
    · rename_i start
      split at found
      · rename_i literal
        obtain ⟨rfl, rfl⟩ := Prod.mk.inj (Option.some.inj found)
        rw [List.cons_append, scanOne?, if_neg start, ← List.cons_append,
          literal?_append ends literal]
      · obtain ⟨punctuation, isMark, same⟩ := Option.map_eq_some_iff.1 found
        obtain ⟨rfl, rfl⟩ := Prod.mk.inj same
        obtain rfl := char_of_ofChar? isMark
        exact scanOne?_mark punctuation (others ++ rest)

/-! ## All tokens -/

theorem scanFrom_append (ends : Ends rest) {tokens : List Token}
    (scanned : scanFrom chars = .ok tokens) :
    scanFrom (chars ++ rest) = (scanFrom rest).map (tokens ++ ·) := by
  fun_induction scanFrom chars generalizing tokens with
  | case1 chars empty =>
    cases scanned
    rw [List.isEmpty_iff.1 empty, List.nil_append]
    cases scanFrom rest <;> rfl
  | case2 chars some_char found => cases scanned
  | case3 chars some_char token tail found ih =>
    have scannedOn : scanFrom (chars ++ rest) = (scanFrom (tail ++ rest)).map (token :: ·) := by
      apply scanFrom_of_scanOne?
      cases trimmed : Text.trimStart chars with
      | nil =>
        rw [trimmed] at found
        cases found
      | cons first others =>
        rw [trimmed] at found
        rw [trimStart_append_eq trimmed, ← List.cons_append]
        exact scanOne?_append ends found
    cases others : scanFrom tail with
    | error left =>
      rw [others] at scanned
      cases scanned
    | ok more =>
      rw [others] at scanned
      cases scanned
      rw [scannedOn, ih others]
      cases scanFrom rest <;> rfl

theorem scanOne?_of_scanFrom {tokens : List Token} (scanned : scanFrom chars = .ok tokens)
    (some_token : tokens ≠ []) : ∃ found, scanOne? (Text.trimStart chars) = some found := by
  rw [scanFrom] at scanned
  split at scanned
  · cases scanned
    exact absurd rfl some_token
  · split at scanned
    · cases scanned
    · rename_i found
      exact ⟨_, found⟩

/-- Blanks before a text do not count if there is a token in it. -/
theorem scanFrom_blanks {blanks : List Char} (blank : ∀ char ∈ blanks, Text.isBlank char)
    {tokens : List Token} (scanned : scanFrom chars = .ok tokens) (some_token : tokens ≠ []) :
    scanFrom (blanks ++ chars) = .ok tokens := by
  obtain ⟨⟨token, tail⟩, found⟩ := scanOne?_of_scanFrom scanned some_token
  have foundToo : scanOne? (Text.trimStart (blanks ++ chars)) = some (token, tail) := by
    rw [trimStart_append blank, found]
  rw [scanFrom_of_scanOne? foundToo, ← scanned, scanFrom_of_scanOne? found]

/-- A text is its part up to the last visible character with blanks after it. -/
theorem exists_trimEnd (chars : List Char) : ∃ blanks, chars = Text.trimEnd chars ++ blanks ∧
    ∀ char ∈ blanks, Text.isBlank char := by
  refine ⟨(chars.reverse.takeWhile Text.isBlank).reverse, ?_, fun char member => ?_⟩
  · rw [Text.trimEnd, ← List.reverse_append, List.takeWhile_append_dropWhile, List.reverse_reverse]
  · exact List.mem_takeWhile_imp (List.mem_reverse.1 member)

namespace Spells

/-- A text spells the tokens that it is scanned into, up to the blanks at its end. -/
theorem of_scan {text : String} {tokens : List Token} (scanned : Token.scan text = .ok tokens)
    (some_token : tokens ≠ []) : ∃ chars blanks, text.toList = chars ++ blanks ∧
      (∀ char ∈ blanks, Text.isBlank char) ∧ Spells chars tokens := by
  have whole : scanFrom (Text.trimEnd text.toList) = .ok tokens := eq_ok_of_mapError scanned
  obtain ⟨blanks, padded, blank⟩ := exists_trimEnd text.toList
  refine ⟨Text.trimEnd text.toList, blanks, padded, blank,
    fun before rest beforeBlank ends => ?_, ?_⟩
  · rw [← List.append_assoc]
    exact scanFrom_append ends (scanFrom_blanks beforeBlank whole some_token)
  · cases last : (Text.trimEnd text.toList).getLast? with
    | none =>
      rw [List.getLast?_eq_none_iff.1 last, scanFrom_nil] at whole
      cases whole
      exact absurd rfl some_token
    | some char =>
      refine ⟨char, rfl, ?_⟩
      rw [Text.trimEnd, List.getLast?_reverse] at last
      have seen := List.head?_dropWhile_not Text.isBlank text.toList.reverse
      rw [last] at seen
      exact seen

end Spells

end Fieldwise.Token
