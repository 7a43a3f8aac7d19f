import Fieldwise.Proofs.Loading.YamlNodes
import Fieldwise.Proofs.Validation

/-! # Plain scalars without digits

A plain scalar is recognised as a number or a time only if it holds a digit, the words for infinite
numbers and for none apart; these words and the flags all have values. So a plain scalar without
digits is harmless (`harmless_ofPlain`). -/

namespace Fieldwise.Yaml

/-- Characters without a digit among them. -/
abbrev Numberless (chars : List Char) : Prop :=
  ∀ char ∈ chars, isDecimal char = false

variable {chars : List Char}

theorem isDecimal_head_of_isNumeral (numeral : isNumeral chars) :
    ∃ char ∈ chars, isDecimal char := by
  rw [isNumeral, Bool.and_eq_true] at numeral
  cases chars with
  | nil => cases numeral.1
  | cons char rest => exact ⟨char, List.mem_cons_self, numeral.1⟩

theorem isNumeral_of_numberless (numberless : Numberless chars) : isNumeral chars = false := by
  refine Bool.eq_false_iff.2 fun numeral => ?_
  obtain ⟨char, member, decimal⟩ := isDecimal_head_of_isNumeral numeral
  rw [numberless char member] at decimal
  cases decimal

/-- The pieces of a text are made of its characters. -/
theorem mem_of_mem_pieces {separator : Char} {piece : List Char}
    (inPieces : piece ∈ Text.pieces separator chars) {char : Char} (member : char ∈ piece) :
    char ∈ chars := by
  fun_induction Text.pieces separator chars generalizing piece with
  | case1 =>
    cases List.mem_singleton.1 inPieces
    exact member
  | case2 head rest same ih =>
    cases List.mem_singleton.1 inPieces
    exact List.mem_cons.2 (.inl (List.mem_singleton.1 member))
  | case3 rest first others same ih =>
    rw [same] at ih
    obtain rfl | inOthers := List.mem_cons.1 inPieces
    · cases member
    · exact List.mem_cons_of_mem _ (ih inOthers member)
  | case4 head rest first others same differs ih =>
    rw [same] at ih
    obtain rfl | inOthers := List.mem_cons.1 inPieces
    · obtain rfl | inFirst := List.mem_cons.1 member
      · exact List.mem_cons_self
      · exact List.mem_cons_of_mem _ (ih List.mem_cons_self inFirst)
    · exact List.mem_cons_of_mem _ (ih (List.mem_cons_of_mem _ inOthers) member)

theorem isSexagesimal_of_numberless (numberless : Numberless chars) :
    isSexagesimal isNumeral chars = false := by
  rw [isSexagesimal]
  split
  · rename_i first second others same
    have inside : Numberless first := fun char member =>
      numberless char (mem_of_mem_pieces (same ▸ List.mem_cons_self) member)
    rw [isNumeral_of_numberless inside, Bool.false_and]
  · rfl

theorem dropSign_suffix (chars : List Char) : dropSign chars <:+ chars := by
  fun_cases dropSign chars with
  | case1 | case2 => exact List.suffix_cons _ _
  | case3 => exact List.suffix_rfl

/-- A text is a sign, which may be missing, and what is left without it. -/
theorem exists_sign (chars : List Char) :
    ∃ sign, String.ofList sign ∈ ["", "+", "-"] ∧ chars = sign ++ dropSign chars := by
  fun_cases dropSign chars with
  | case1 => exact ⟨['+'], by decide, rfl⟩
  | case2 => exact ⟨['-'], by decide, rfl⟩
  | case3 => exact ⟨[], by decide, rfl⟩

theorem isWholeForm_of_numberless (numberless : Numberless chars) : isWholeForm chars = false := by
  have inside : Numberless (dropSign chars) := fun char member =>
    numberless char ((dropSign_suffix chars).mem member)
  have noZero (rest : List Char) : dropSign chars ≠ '0' :: rest := by
    intro same
    have zero := inside '0' (same ▸ List.mem_cons_self)
    cases zero
  rw [isWholeForm]
  split
  · exact absurd ‹_› (noZero _)
  · exact absurd ‹_› (noZero _)
  · exact absurd ‹_› (noZero _)
  · exact absurd ‹_› (noZero _)
  · rw [isNumeral_of_numberless inside, isSexagesimal_of_numberless inside]
    rfl

def realWords : List String :=
  [".inf", ".Inf", ".INF", "+.inf", "+.Inf", "+.INF", "-.inf", "-.Inf", "-.INF", ".nan", ".NaN", ".NAN"]

/-- A real number without digits is a word. -/
theorem mem_realWords_of_isRealForm (numberless : Numberless chars) (form : isRealForm chars) :
    String.ofList chars ∈ realWords := by
  have inside : Numberless (dropSign chars) := fun char member =>
    numberless char ((dropSign_suffix chars).mem member)
  rw [isRealForm] at form
  split at form
  · rename_i fraction same
    have whole : Numberless ((dropSign chars).takeWhile (· != '.')) := fun char member =>
      inside char ((List.takeWhile_prefix _).mem member)
    have noDigit : startsWith isDecimal fraction = false := by
      cases fraction with
      | nil => rfl
      | cons char rest =>
        have member : char ∈ (dropSign chars).dropWhile (· != '.') :=
          same ▸ List.mem_cons_of_mem _ List.mem_cons_self
        exact inside char ((List.dropWhile_suffix _).mem member)
    rw [isNumeral_of_numberless whole, isSexagesimal_of_numberless whole, noDigit] at form
    simp only [Bool.false_and, Bool.false_or, Bool.and_eq_true, List.isEmpty_iff] at form
    obtain ⟨noWhole, word⟩ := form
    have unsigned : dropSign chars = '.' :: fraction := by
      rw [← List.takeWhile_append_dropWhile (l := dropSign chars) (p := (· != '.')), noWhole, same]
      rfl
    simp only [Bool.or_eq_true, Bool.and_eq_true, List.contains_iff_mem, beq_iff_eq] at word
    have spelled (sign : List Char) : String.ofList (sign ++ '.' :: fraction) =
        String.ofList sign ++ "." ++ String.ofList fraction := by
      rw [← String.ofList_append, List.append_cons, String.ofList_append]
    obtain ⟨sign, isSign, same⟩ := exists_sign chars
    rw [unsigned] at same
    rw [same, spelled]
    obtain infinite | ⟨length, none⟩ := word
    · have known : ∀ sign ∈ ["", "+", "-"], ∀ word ∈ ["inf", "Inf", "INF"],
          sign ++ "." ++ word ∈ realWords := by decide
      exact known _ isSign _ infinite
    · have known : ∀ word ∈ ["nan", "NaN", "NAN"], "" ++ "." ++ word ∈ realWords := by decide
      have noSign : sign = [] := by
        rw [unsigned, same, List.length_append] at length
        exact List.eq_nil_of_length_eq_zero (by omega)
      rw [noSign]
      exact known _ none
  · cases form

theorem takeWhile_of_numberless (numberless : Numberless chars) : chars.takeWhile isDecimal = [] := by
  cases chars with
  | nil => rfl
  | cons char rest =>
    have first : isDecimal char ≠ true := Bool.eq_false_iff.1 (numberless char List.mem_cons_self)
    exact List.takeWhile_cons_of_neg first

theorem takeDigits?_of_numberless (numberless : Numberless chars) (least most : Nat) :
    takeDigits? (least + 1) most chars = none := by
  have inside : Numberless (chars.take most) := fun char member =>
    numberless char (List.mem_of_mem_take member)
  rw [takeDigits?, takeWhile_of_numberless inside]
  rfl

theorem isTimeForm_of_numberless (numberless : Numberless chars) : isTimeForm chars = false := by
  rw [isTimeForm, timeParts?, takeDigits?_of_numberless numberless]
  rfl

/-! ## Values -/

theorem malformedOr_of_isShowable {result : Except Error Datum}
    (shown : result.toOption.map Datum.isShowable = some true) :
    MalformedOr (fun datum => datum.isShowable) result := by
  obtain ⟨datum, found, showable⟩ := Option.map_eq_some_iff.1 shown
  rw [eq_ok_of_toOption found]
  exact showable

theorem readFlag_malformedOr {word : String} (isFlag : word ∈ flagWords) :
    MalformedOr (fun datum => datum.isShowable) (readFlag word) := by
  have flags : ∀ word ∈ flagWords, (readFlag word).toOption.map Datum.isShowable = some true := by
    decide
  exact malformedOr_of_isShowable (flags word isFlag)

theorem readReal_malformedOr {word : String} (isReal : word ∈ realWords) :
    MalformedOr (fun datum => datum.isShowable) (readReal word) := by
  have reals : ∀ word ∈ realWords, (readReal word).toOption.map Datum.isShowable = some true := by
    decide
  exact malformedOr_of_isShowable (reals word isReal)

/-- A plain scalar without digits is harmless if no line break ends it. -/
theorem harmless_ofPlain {text : String} (numberless : Numberless text.toList)
    (noBreak : text.toList.getLast? ≠ some '\n') : HarmlessScalar (.ofPlain text) text := by
  have whole : dropLastBreak text.toList = text.toList :=
    if_neg fun both => noBreak both.2
  rw [Tag.ofPlain, whole]
  rw [String.ofList_toList, isWholeForm_of_numberless numberless,
    isTimeForm_of_numberless numberless]
  split
  · rintro _ ⟨rfl⟩
    exact readFlag_malformedOr (List.contains_iff_mem.1 ‹_›)
  split
  · rename_i form
    have word := mem_realWords_of_isRealForm numberless form
    rw [String.ofList_toList] at word
    rintro _ ⟨rfl⟩
    exact readReal_malformedOr word
  split
  · contradiction
  split
  · exact nofun
  split
  · exact harmless_null text
  split
  · exact nofun
  split
  · exact nofun
  · exact harmless_str text

end Fieldwise.Yaml
