import Fieldwise.Proofs.Settings.Layers

/-! # Malformed values of settings

A table may give a value of any kind for any key. A name that is no text or is blank, and an
indentation that stands for no number of at least one, leave their fields as they were. A flag that
is no word for yes or no does not: it is off, whatever was in force. And an infinite number for the
indentation is no value at all; the table is then not laid over the settings
(`Settings.layer_malformed`). -/

namespace Fieldwise

namespace Datum

/-- Nothing but a text that is not blank is a name. -/
def isMalformedName : Datum → Bool
  | text value => Text.isBlankText value
  | _ => true

/-- The words that switch a flag on or off. -/
def flagWords : List String :=
  truthyWords ++ ["0", "false", "f", "no", "n", "off"]

/-- Nothing but a flag, a number or one of the words for yes and no is a flag. -/
def isMalformedFlag : Datum → Bool
  | flag _ => false
  | whole _ => false
  | real _ => false
  | text value => Text.lowercase (Text.strip value) ∉ flagWords
  | _ => true

/-- Nothing but what stands for a whole number of at least one is a width. -/
def isMalformedWidth (datum : Datum) : Bool :=
  datum.widthSetting?.isNone

theorem nameSetting?_of_malformed {datum : Datum} (malformed : datum.isMalformedName) :
    datum.nameSetting? = none := by
  cases datum with
  | text value => exact if_pos malformed
  | _ => rfl

theorem flagSetting_of_malformed {datum : Datum} (malformed : datum.isMalformedFlag) :
    datum.flagSetting = false := by
  cases datum with
  | text value =>
    rw [isMalformedFlag, decide_eq_true_iff, flagWords] at malformed
    rw [flagSetting]
    exact decide_eq_false fun truthy => malformed (List.mem_append_left _ truthy)
  | flag _ => cases malformed
  | whole _ => cases malformed
  | real _ => cases malformed
  | _ => rfl

end Datum

namespace Settings

variable {table : List (Datum × Datum)} {settings : Settings} {key : String}

/-- A table gives nothing for a key but a value that is malformed. -/
def GivesOnly (malformed : Datum → Bool) (table : List (Datum × Datum)) (key : String) : Prop :=
  ∀ value, Datum.lookup? key table = some value → malformed value

theorem givesOnly_of_lookup? {malformed : Datum → Bool} {value : Datum}
    (found : Datum.lookup? key table = some value) (refused : malformed value) :
    GivesOnly malformed table key := by
  intro other same
  rw [found] at same
  cases same
  exact refused

def nameFields : List (String × (Settings → String)) :=
  [("optional_marker", optionalMarker), ("move_prefix", movePrefix),
    ("convert_infix", convertInfix)]

def flagFields : List (String × (Settings → Bool)) :=
  [("self_moves", selfMoves), ("self_conversions", selfConversions), ("strict", strict)]

/-- A default stays in force where only refused values are given. -/
theorem lastAccepted_of_refused {β : Type} {accept : Datum → Option β} {malformed : Datum → Bool}
    (refused : ∀ value, malformed value → accept value = none)
    (given : GivesOnly malformed table key) (default : β) :
    lastAccepted accept default (Datum.lookup? key table).toList = default := by
  rw [lastAccepted_toList]
  cases found : Datum.lookup? key table with
  | none => rfl
  | some value =>
    have none := refused value (given value found)
    rw [Option.bind_some, none, Option.getD_none]

/-- A malformed flag is off, so it is as it was only if it is absent or was off. -/
theorem lastAccepted_flag_iff (given : GivesOnly Datum.isMalformedFlag table key) (flag : Bool) :
    lastAccepted (some ∘ Datum.flagSetting) flag (Datum.lookup? key table).toList = flag ↔
      Datum.lookup? key table = none ∨ flag = false := by
  rw [lastAccepted_toList]
  cases found : Datum.lookup? key table with
  | none => simp
  | some value =>
    have off := Datum.flagSetting_of_malformed (given value found)
    simp [off, eq_comm]

/-- An infinite number for the indentation breaks the table off. -/
theorem layer_of_infinite {negative : Bool}
    (infinite : Datum.lookup? "indent" table = some (.real (.infinite negative)))
    (settings : Settings) : settings.layer table = .error .infiniteIndent := by
  have width : layeredWidth table "indent" settings.indent = .error .infiniteIndent := by
    rw [layeredWidth, infinite]
    rfl
  rw [layer, width]
  rfl

/-- A table is laid over settings unless it gives an infinite number for the indentation, whatever
else its values are. Then a name or an indentation that is absent or malformed is as it was. A flag
that is absent or malformed is as it was exactly if it is absent or was off. -/
theorem layer_malformed (table : List (Datum × Datum)) (settings : Settings) :
    ((∃ layered, settings.layer table = .ok layered) ↔ FiniteIndent table) ∧
    ∀ layered, settings.layer table = .ok layered →
      (∀ field ∈ nameFields, GivesOnly Datum.isMalformedName table field.1 →
        field.2 layered = field.2 settings) ∧
      (∀ field ∈ flagFields, GivesOnly Datum.isMalformedFlag table field.1 →
        (field.2 layered = field.2 settings ↔
          Datum.lookup? field.1 table = none ∨ field.2 settings = false)) ∧
      (GivesOnly Datum.isMalformedWidth table "indent" → layered.indent = settings.indent) := by
  have returned : (∃ layered, settings.layer table = .ok layered) → FiniteIndent table := by
    rintro ⟨layered, laid⟩ negative infinite
    rw [layer_of_infinite infinite] at laid
    cases laid
  refine ⟨⟨returned, fun finite => ⟨_, layer_eq finite settings⟩⟩, fun layered laid => ?_⟩
  rw [layer_eq (returned ⟨layered, laid⟩)] at laid
  cases laid
  refine ⟨?_, ?_, ?_⟩
  · have kept {key : String} (given : GivesOnly Datum.isMalformedName table key) (name : String) :=
      lastAccepted_of_refused (fun _ => Datum.nameSetting?_of_malformed) given name
    simp only [nameFields, List.forall_mem_cons, List.not_mem_nil, false_implies, implies_true,
      and_true]
    exact ⟨fun given => kept given _, fun given => kept given _, fun given => kept given _⟩
  · simp only [flagFields, List.forall_mem_cons, List.not_mem_nil, false_implies, implies_true,
      and_true]
    exact ⟨fun given => lastAccepted_flag_iff given _, fun given => lastAccepted_flag_iff given _,
      fun given => lastAccepted_flag_iff given _⟩
  · exact fun given => lastAccepted_of_refused (fun _ => Option.isNone_iff_eq_none.1) given _

/-- A table of malformed values that switches nothing on that was off. -/
def malformedTable : List (Datum × Datum) :=
  [(.text "optional_marker", .text " "), (.text "move_prefix", .whole 3),
    (.text "strict", .text "maybe"), (.text "indent", .text "0")]

/-- Malformed values leave the defaults as they are, since strictness is off by default. -/
theorem layer_malformed_defaults : ∃ layered, ({} : Settings).layer malformedTable = .ok layered ∧
    layered.optionalMarker = "Optional" ∧ layered.movePrefix = "move_corresponding" ∧
    layered.strict = false ∧ layered.indent = 4 := by
  obtain ⟨returns, fields⟩ := layer_malformed malformedTable {}
  have finite : FiniteIndent malformedTable := by
    intro negative
    exact nofun
  obtain ⟨layered, laid⟩ := returns.2 finite
  obtain ⟨names, flags, width⟩ := fields layered laid
  refine ⟨layered, laid, ?_, ?_, ?_, ?_⟩
  · exact names ("optional_marker", optionalMarker) (by simp [nameFields])
      (givesOnly_of_lookup? rfl (by decide))
  · exact names ("move_prefix", movePrefix) (by simp [nameFields])
      (givesOnly_of_lookup? rfl rfl)
  · exact (flags ("strict", strict) (by simp [flagFields])
      (givesOnly_of_lookup? rfl (by decide +kernel))).2 (.inr rfl)
  · exact width (givesOnly_of_lookup? rfl (by decide +kernel))

/-- A word that is neither for yes nor for no switches a flag off, and an infinite indentation stops
the process: malformed values do not always leave the settings as they were. -/
theorem layer_malformedFlag : Datum.isMalformedFlag (.text "maybe") ∧
    ({} : Settings).layer [(.text "self_moves", .text "maybe")] = .ok { selfMoves := false } ∧
    ({} : Settings).layer [(.text "indent", .real (.infinite false))] =
      .error .infiniteIndent := by
  have malformed : Datum.isMalformedFlag (.text "maybe") := by
    decide +kernel
  have finite : FiniteIndent [(.text "self_moves", .text "maybe")] := fun _ => nofun
  have off : Datum.flagSetting (.text "maybe") = false := Datum.flagSetting_of_malformed malformed
  refine ⟨malformed, ?_, layer_of_infinite rfl _⟩
  rw [layer_eq finite]
  exact congrArg (fun flag => Except.ok ({ selfMoves := flag } : Settings)) off

end Settings

end Fieldwise
