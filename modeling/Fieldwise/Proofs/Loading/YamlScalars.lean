import Fieldwise.Proofs.Loading.YamlLiterals
import Fieldwise.Yaml.Scalar
import Mathlib.Data.List.TakeWhile

/-! # Scalars of ordinary YAML texts

Errors other than malformed text need a digit, an exclamation mark or a backslash somewhere; a text
without them is ordinary. Readers of scalars never look at anything but the rest of the text, and
what they make of it are its own characters, spaces and line feeds: a plain scalar of an ordinary
text is ordinary, and a quoted one holds no escape. -/

namespace Fieldwise.Yaml

/-- A character that is no digit, exclamation mark or backslash. -/
def isOrdinary (char : Char) : Bool :=
  !isDecimal char && char != '!' && char != '\\'

theorem isOrdinary_iff (char : Char) :
    isOrdinary char ↔ isDecimal char = false ∧ char ≠ '!' ∧ char ≠ '\\' := by
  simp [isOrdinary, and_assoc]

abbrev Ordinary (chars : List Char) : Prop :=
  ∀ char ∈ chars, isOrdinary char

variable {chars inner : List Char}

theorem Ordinary.mono (ordinary : Ordinary chars) (inside : inner <:+ chars) : Ordinary inner :=
  fun char member => ordinary char (inside.mem member)

theorem Ordinary.append (first : Ordinary chars) (second : Ordinary inner) :
    Ordinary (chars ++ inner) :=
  List.forall_mem_append.2 ⟨first, second⟩

theorem Ordinary.numberless (ordinary : Ordinary chars) : Numberless chars :=
  fun char member => ((isOrdinary_iff char).1 (ordinary char member)).1

/-! ## Cursors -/

/-- A cursor before ordinary characters. -/
abbrev Cursor.Ordinary (cursor : Cursor) : Prop :=
  Yaml.Ordinary cursor.rest

/-- What a reader gives is good, and it goes on before ordinary characters. -/
abbrev LeavesOrdinary {α : Type} (good : α → Prop) (found : α × Cursor) : Prop :=
  good found.1 ∧ found.2.Ordinary

theorem LeavesOrdinary.of_eq {α : Type} {good : α → Prop} {found : α × Cursor} {value : α}
    {next : Cursor} (leaves : LeavesOrdinary good found) (same : found = (value, next)) :
    good value ∧ next.Ordinary := by
  subst same
  exact leaves

namespace Cursor

variable {cursor : Cursor}

theorem step_suffix (cursor : Cursor) : cursor.step.rest <:+ cursor.rest := by
  rw [step]
  split
  · exact List.suffix_rfl
  · rename_i char rest same
    rw [same]
    split <;> exact List.suffix_cons _ _

theorem advance_suffix (count : Nat) (cursor : Cursor) :
    (cursor.advance count).rest <:+ cursor.rest := by
  induction count generalizing cursor with
  | zero => exact List.suffix_rfl
  | succ count ih => exact (ih cursor.step).trans (step_suffix cursor)

theorem Ordinary.step (ordinary : cursor.Ordinary) : cursor.step.Ordinary :=
  Yaml.Ordinary.mono ordinary (step_suffix cursor)

theorem Ordinary.advance (ordinary : cursor.Ordinary) (count : Nat) : (cursor.advance count).Ordinary :=
  Yaml.Ordinary.mono ordinary (advance_suffix count cursor)

theorem Ordinary.skipWhile (ordinary : cursor.Ordinary) (test : Char → Bool) :
    (cursor.skipWhile test).Ordinary :=
  ordinary.advance _

theorem Ordinary.takeWhile (ordinary : cursor.Ordinary) (test : Char → Bool) :
    LeavesOrdinary Yaml.Ordinary (cursor.takeWhile test) :=
  ⟨fun char member => ordinary char ((List.takeWhile_prefix test).mem member), ordinary.advance _⟩

theorem Ordinary.skipComment (ordinary : cursor.Ordinary) : cursor.skipComment.Ordinary := by
  rw [Cursor.skipComment]
  split
  · exact ordinary.skipWhile _
  · exact ordinary

theorem Ordinary.takeBreak (ordinary : cursor.Ordinary) :
    LeavesOrdinary Yaml.Ordinary cursor.takeBreak := by
  rw [Cursor.takeBreak]
  split
  · rename_i char rest same
    split
    · refine ⟨List.forall_mem_singleton.2 ?_, ordinary.step⟩
      split
      · rfl
      · exact ordinary char (same ▸ List.mem_cons_self)
    · exact ⟨nofun, ordinary⟩
  · exact ⟨nofun, ordinary⟩

end Cursor

/-! ## Plain scalars -/

theorem folded_ordinary {first others : List Char} (ordinary : Ordinary first)
    (ordinary' : Ordinary others) :
    Ordinary (folded first others) := by
  rw [folded]
  split
  · exact ordinary.append ordinary'
  · split
    · exact List.forall_mem_singleton.2 rfl
    · exact ordinary'

theorem plainBreaks_ordinary (fuel : Nat) {cursor : Cursor} (ordinary : cursor.Ordinary) :
    LeavesOrdinary (fun found => ∀ breaks ∈ found, Ordinary breaks) (plainBreaks fuel cursor) := by
  induction fuel generalizing cursor with
  | zero => exact ⟨nofun, ordinary⟩
  | succ fuel ih =>
    have spaces : cursor.skipSpaces.Ordinary := ordinary.skipWhile _
    have taken := spaces.takeBreak
    rw [plainBreaks]
    split
    · refine ⟨?_, spaces⟩
      rintro _ ⟨rfl⟩
      exact nofun
    · rename_i first next _ same
      rw [same] at taken
      split
      · exact ⟨nofun, taken.2⟩
      · obtain ⟨others, after⟩ := ih taken.2
        refine ⟨fun breaks found => ?_, after⟩
        obtain ⟨rest, given, rfl⟩ := Option.map_eq_some_iff.1 found
        exact taken.1.append (others rest given)

theorem plainGap_ordinary {cursor : Cursor} (ordinary : cursor.Ordinary) :
    Ordinary (plainGap cursor).1 ∧ (plainGap cursor).2.2.Ordinary := by
  have spaces := ordinary.takeWhile (· == ' ')
  fun_cases plainGap cursor with
  | case1 gap next same => exact spaces.of_eq same
  | case2 _ _ same _ _ _ taken => exact ⟨nofun, ((spaces.of_eq same).2.takeBreak.of_eq taken).2⟩
  | case3 _ _ same _ _ _ taken _ _ breaks =>
    have after := (spaces.of_eq same).2.takeBreak.of_eq taken
    exact ⟨nofun, ((plainBreaks_ordinary _ after.2).of_eq breaks).2⟩
  | case4 _ _ same _ _ _ taken _ _ _ breaks =>
    have after := (spaces.of_eq same).2.takeBreak.of_eq taken
    obtain ⟨others, last⟩ := (plainBreaks_ordinary _ after.2).of_eq breaks
    exact ⟨folded_ordinary after.1 (others _ rfl), last⟩

/-- A run of a plain scalar holds no gap. -/
theorem isSpace_of_mem_plainRun (inFlow : Bool) (chars : List Char) :
    ∀ char ∈ chars.take (plainRun inFlow chars), isSpace char = false := by
  fun_induction plainRun inFlow chars with
  | case1 => exact nofun
  | case2 | case3 | case4 => 
    rw [List.take_zero]
    exact nofun
  | case5 char rest noSpace _ _ ih =>
    rw [List.take_succ_cons]
    exact List.forall_mem_cons.2 ⟨Bool.eq_false_iff.2 noSpace, ih⟩

/-- A text that does not end with a line feed. -/
abbrev EndsInLine (chars : List Char) : Prop :=
  chars.getLast? ≠ some '\n'

theorem EndsInLine.append {first second : List Char} (left : EndsInLine first)
    (right : EndsInLine second) : EndsInLine (first ++ second) := by
  rw [EndsInLine, List.getLast?_append]
  cases last : second.getLast? with
  | none => exact left
  | some char => exact fun same => right (last.trans same)

/-- What is read as a plain scalar, and the cursor after it. -/
structure PlainScalar.Ordinary (scalar : PlainScalar) : Prop where
  text : Yaml.Ordinary scalar.text
  ending : EndsInLine scalar.text
  after : scalar.cursor.Ordinary

/-- A run with the gap before it. -/
theorem run_ordinary (inFlow : Bool) {gap chars : List Char} (gapOrdinary : Ordinary gap)
    (ordinary : Ordinary chars)
    {count : Nat} (some : count ≠ 0) (isRun : count = 0 ∨ count = plainRun inFlow chars) :
    Ordinary (gap ++ chars.take count) ∧ EndsInLine (gap ++ chars.take count) := by
  refine ⟨gapOrdinary.append fun char member => ordinary char (List.mem_of_mem_take member), ?_⟩
  obtain none | rfl := isRun
  · exact absurd none some
  intro ends
  rw [List.getLast?_append] at ends
  cases last : (chars.take (plainRun inFlow chars)).getLast? with
  | none =>
    have empty := List.getLast?_eq_none_iff.1 last
    rw [List.take_eq_nil_iff] at empty
    obtain none | rfl := empty
    · exact some none
    · exact some rfl
  | some char =>
    rw [last] at ends
    cases ends
    have noSpace := isSpace_of_mem_plainRun inFlow chars _ (List.mem_of_getLast? last)
    cases noSpace

theorem plainRuns_ordinary (inFlow : Bool) (indent : Int) (fuel : Nat) {gap : List Char}
    (endedLine : Bool)
    {cursor : Cursor} (gapOrdinary : Ordinary gap) (ordinary : cursor.Ordinary) :
    (plainRuns inFlow indent fuel gap endedLine cursor).Ordinary := by
  fun_induction plainRuns inFlow indent fuel gap endedLine cursor with
  | case1 | case2 => exact ⟨nofun, nofun, ordinary⟩
  | case3 _ gap _ cursor count someChars run _ _ _ after =>
    have isRun : count = 0 ∨ count = plainRun inFlow cursor.rest := ite_eq_or_eq _ _ _
    obtain ⟨text, ending⟩ := run_ordinary inFlow gapOrdinary ordinary someChars isRun
    have gap := plainGap_ordinary (ordinary.advance count)
    rw [after] at gap
    exact ⟨text, ending, gap.2⟩
  | case4 _ gap _ cursor count someChars run _ _ _ after _ _ ih =>
    have isRun : count = 0 ∨ count = plainRun inFlow cursor.rest := ite_eq_or_eq _ _ _
    obtain ⟨text, ending⟩ := run_ordinary inFlow gapOrdinary ordinary someChars isRun
    have gap := plainGap_ordinary (ordinary.advance count)
    rw [after] at gap
    have others := ih gap.1 gap.2
    exact ⟨text.append others.text, ending.append others.ending, others.after⟩

theorem readPlain_ordinary (inFlow : Bool) (indent : Int) {cursor : Cursor}
    (ordinary : cursor.Ordinary) :
    (readPlain inFlow indent cursor).Ordinary :=
  plainRuns_ordinary inFlow (indent + 1) _ false nofun ordinary

/-! ## Other scalars -/

/-- A reader that goes on before ordinary characters, if the text is not malformed. -/
abbrev StaysOrdinary {α : Type} (result : Except Error (α × Cursor)) : Prop :=
  MalformedOr (fun found => found.2.Ordinary) result

theorem quotedBreaks_ordinary (fuel : Nat) {cursor : Cursor} (ordinary : cursor.Ordinary) :
    StaysOrdinary (quotedBreaks fuel cursor) := by
  fun_induction quotedBreaks fuel cursor with
  | case1 | case2 => rfl
  | case3 => exact ordinary.skipWhile _
  | case4 _ _ _ _ _ _ _ taken ih =>
    have after := (ordinary.skipWhile isBlank).takeBreak.of_eq taken
    exact (ih after.2).bind fun _ last => last

theorem quotedGap_ordinary {cursor : Cursor} (ordinary : cursor.Ordinary) :
    StaysOrdinary (quotedGap cursor) := by
  have blanks := ordinary.takeWhile isBlank
  fun_cases quotedGap cursor with
  | case1 _ _ same => exact (blanks.of_eq same).2
  | case2 _ _ same _ _ _ taken =>
    have after := (blanks.of_eq same).2.takeBreak.of_eq taken
    exact (quotedBreaks_ordinary _ after.2).bind fun _ last => last

/-- What is read before the rest of a scalar is of no account. -/
theorem StaysOrdinary.append {result : Except Error (List Char × Cursor)} (stays : StaysOrdinary result)
    (text : List Char) : StaysOrdinary (do
      let (others, cursor) ← result
      return (text ++ others, cursor)) :=
  stays.bind fun _ last => last

/-- No escape stands in a quoted scalar, as there is no backslash. -/
theorem readQuoted_ordinary (half : Option Char) (double : Bool) (fuel : Nat) {cursor : Cursor}
    (ordinary : cursor.Ordinary) : StaysOrdinary (readQuoted half double fuel cursor) := by
  induction fuel generalizing cursor with
  | zero => rfl
  | succ fuel ih =>
    rw [readQuoted]
    split
    · rfl
    · rename_i char rest same
      have first := (isOrdinary_iff char).1 (ordinary char (same ▸ List.mem_cons_self))
      have noEscape : (char == '\\') = false := beq_eq_false_iff_ne.2 first.2.2
      rw [noEscape, Bool.and_false]
      dsimp only
      by_cases closes : char = if double then '"' else '\''
      · rw [if_pos closes]
        split
        · exact (ih (ordinary.advance 2)).append _
        · exact ordinary.step
      · rw [if_neg closes, if_neg Bool.false_ne_true]
        split
        · exact (quotedGap_ordinary ordinary).bind fun _ after => (ih after).append _
        · exact (ih ordinary.step).append _

theorem skipLineEnd_ordinary {cursor : Cursor} (ordinary : cursor.Ordinary) :
    MalformedOr Cursor.Ordinary (skipLineEnd cursor) := by
  have after : cursor.skipSpaces.skipComment.Ordinary := (ordinary.skipWhile _).skipComment
  rw [skipLineEnd]
  split
  · exact after.takeBreak.2
  · rfl

theorem blockBreaks_ordinary (indent fuel : Nat) {cursor : Cursor} (ordinary : cursor.Ordinary) :
    (blockBreaks indent fuel cursor).2.Ordinary := by
  fun_induction blockBreaks indent fuel cursor with
  | case1 => exact ordinary
  | case2 => exact ordinary.advance _
  | case3 _ _ _ _ _ _ taken _ _ breaks ih =>
    rw [breaks] at ih
    exact ih (Cursor.Ordinary.takeBreak (ordinary.advance _) |>.of_eq taken).2

theorem firstBreaks_ordinary (fuel : Nat) {cursor : Cursor} (ordinary : cursor.Ordinary) :
    (firstBreaks fuel cursor).2.2.Ordinary := by
  fun_induction firstBreaks fuel cursor with
  | case1 => exact ordinary
  | case2 => exact ordinary.skipWhile _
  | case3 _ _ _ _ _ _ taken _ _ _ breaks ih =>
    rw [breaks] at ih
    exact ih ((ordinary.skipWhile _).takeBreak.of_eq taken).2

theorem blockLines_ordinary (fold : Bool) (chomping : Chomping) (indent fuel : Nat) (breaks : List Char)
    {cursor : Cursor} (ordinary : cursor.Ordinary) :
    (blockLines fold chomping indent fuel breaks cursor).2.Ordinary := by
  fun_induction blockLines fold chomping indent fuel breaks cursor with
  | case1 => exact ordinary
  | case2 _ _ _ _ _ line _ second lineBreak _ _ others _ _ _ _ found ih =>
    rw [found] at ih
    have next := ((ordinary.takeWhile _).of_eq line).2.takeBreak.of_eq lineBreak
    have last := blockBreaks_ordinary indent second.fuel next.2
    rw [others] at last
    exact ih last
  | case3 _ _ _ _ _ line _ second lineBreak _ _ others =>
    have next := ((ordinary.takeWhile _).of_eq line).2.takeBreak.of_eq lineBreak
    have last := blockBreaks_ordinary indent second.fuel next.2
    rw [others] at last
    exact last

theorem takeIncrement_malformedOr (chars : List Char) :
    MalformedOr (fun _ => True) (takeIncrement chars) := by
  fun_cases takeIncrement chars with
  | case1 => rfl
  | case2 | case3 | case4 => trivial

theorem readBlock_ordinary (fold : Bool) (indent : Int) {cursor : Cursor} (ordinary : cursor.Ordinary) :
    StaysOrdinary (readBlock fold indent cursor) := by
  have header : MalformedOr (fun _ => True) (blockHeader cursor.rest) :=
    (takeIncrement_malformedOr _).bind fun _ _ => trivial
  refine header.bind fun found _ => ?_
  obtain ⟨chomping, increment, count⟩ := found
  dsimp only
  split
  · rfl
  · refine (skipLineEnd_ordinary (ordinary.advance count)).bind fun next after => ?_
    have lines {width : Nat} {breaks : List Char} {cursor : Cursor} (ordinary : cursor.Ordinary) :
        StaysOrdinary (if cursor.column = width ∧ cursor.rest ≠ [] then
            .ok (blockLines fold chomping width cursor.fuel breaks cursor)
          else .ok (if chomping = .keep then breaks else [], cursor)) := by
      split
      · exact blockLines_ordinary _ _ _ _ _ ordinary
      · exact ordinary
    cases increment with
    | some increment => exact lines (blockBreaks_ordinary _ _ after)
    | none => exact lines (firstBreaks_ordinary _ after)

end Fieldwise.Yaml
