import Fieldwise.Text.Blank
import Mathlib.Data.List.DropRight

/-! # Texts without blanks around them

Stripping takes the blanks at both ends away at once: what it leaves is stripped already, and it
leaves something of every text that is not blank (`Text.isTrimmed_strip`). -/

namespace Fieldwise.Text

/-- A text that is not blank and has no blanks around it. -/
structure IsTrimmed (text : String) : Prop where
  visible : isBlankText text = false
  strip_eq : strip text = text

theorem stripChars_eq (chars : List Char) :
    stripChars chars = (chars.dropWhile isBlank).rdropWhile isBlank :=
  rfl

theorem stripChars_eq_nil_iff (chars : List Char) :
    stripChars chars = [] ↔ ∀ char ∈ chars, isBlank char := by
  rw [stripChars_eq, List.rdropWhile_eq_nil_iff, ← List.dropWhile_eq_nil_iff,
    List.dropWhile_idempotent, List.dropWhile_eq_nil_iff]

theorem stripChars_stripChars (chars : List Char) :
    stripChars (stripChars chars) = stripChars chars := by
  -- The cut at the end leaves a start of what the cut at the front leaves, so the first character
  -- is the same.
  have front : (stripChars chars).dropWhile isBlank = stripChars chars := by
    have start : stripChars chars <+: chars.dropWhile isBlank := List.rdropWhile_prefix ..
    obtain ⟨cut, whole⟩ := start
    have seen := List.head?_dropWhile_not isBlank chars
    rw [← whole] at seen
    cases left : stripChars chars with
    | nil => rfl
    | cons first rest =>
      rw [left] at seen
      exact List.dropWhile_cons_of_neg (by simpa using seen)
  rw [stripChars_eq, front, stripChars_eq, List.rdropWhile_idempotent]

theorem isBlankText_iff (text : String) : isBlankText text ↔ stripChars text.toList = [] := by
  rw [isBlankText, List.all_eq_true, stripChars_eq_nil_iff]

/-- Stripping a text that is not blank leaves a trimmed one. -/
theorem isTrimmed_strip {text : String} (visible : isBlankText text = false) :
    IsTrimmed (strip text) := by
  have chars : (strip text).toList = stripChars text.toList := String.toList_ofList
  constructor
  · rw [← Bool.not_eq_true, isBlankText_iff, chars, stripChars_stripChars, ← isBlankText_iff,
      visible]
    exact Bool.false_ne_true
  · rw [strip, chars, stripChars_stripChars]
    rfl

end Fieldwise.Text
