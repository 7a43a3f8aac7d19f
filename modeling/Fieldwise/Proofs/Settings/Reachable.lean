import Fieldwise.CommandLine.Run
import Fieldwise.Proofs.Outcome
import Fieldwise.Proofs.Settings.Malformed
import Fieldwise.Proofs.Type.OptionalTexts
import Fieldwise.Proofs.Validation

/-! # Settings that can be reached

Settings start as the defaults. From there values, the variables of environments and the options of
command lines are laid over them, or files or a command line give them anew. Settings that are
reached in this way have an indentation of at least one, and their three names are not blank and have
no blanks around them. Nothing else holds of all of them, since all settings of this kind are
reached. So the marker of such settings can be put around any type, and makes it optional
(`Settings.reachable_usable`). -/

namespace Fieldwise

namespace Datum

variable {datum : Datum}

theorem isTrimmed_of_nameSetting? {name : String} (accepted : datum.nameSetting? = some name) :
    Text.IsTrimmed name := by
  cases datum with
  | text value =>
    rw [nameSetting?] at accepted
    split at accepted
    · cases accepted
    · rename_i visible
      cases accepted
      exact Text.isTrimmed_strip (Bool.not_eq_true _ ▸ visible)
  | _ => cases accepted

theorem nameSetting?_text {name : String} (trimmed : Text.IsTrimmed name) :
    (text name).nameSetting? = some name := by
  rw [nameSetting?, trimmed.visible, trimmed.strip_eq]
  rfl

theorem le_of_widthSetting? {width : Int} (accepted : datum.widthSetting? = some width) :
    1 ≤ width := by
  rw [widthSetting?] at accepted
  split at accepted
  · split at accepted <;> cases accepted
    assumption
  · cases accepted

theorem widthSetting?_whole {width : Int} (positive : 1 ≤ width) :
    (whole width).widthSetting? = some width :=
  if_pos positive

end Datum

namespace Settings

/-! ## What every step keeps -/

/-- Settings that types can be classified and functions be rendered with. -/
structure IsUsable (settings : Settings) : Prop where
  optionalMarker : Text.IsTrimmed settings.optionalMarker
  movePrefix : Text.IsTrimmed settings.movePrefix
  convertInfix : Text.IsTrimmed settings.convertInfix
  indent : 1 ≤ settings.indent

/-- One step that settings can be the result of. A value, the variables of an environment or the
options of a command line are laid over the settings before it, or files or a whole command line
give settings whatever was before. -/
inductive Step (before : Settings) : Settings → Prop
  | datum {datum : Datum} {after : Settings} (laid : before.layerDatum datum = .ok after) :
      Step before after
  | environment {lead : String} {lookup : String → Option String} {after : Settings}
      (laid : before.layerEnvironment lead lookup = .ok after) : Step before after
  | overrides {options : CommandLine.Options} {after : Settings}
      (laid : before.layer options.overrides = .ok after) : Step before after
  | files {workspace : Workspace} {path : Option String} {after : Settings}
      (given : ofFiles workspace path = .ok after) : Step before after
  | load {workspace : Workspace} {path : Option String} {after : Settings}
      (given : load workspace path = .ok after) : Step before after
  | commandLine {workspace : Workspace} {options : CommandLine.Options} {after : Settings}
      (given : options.settings workspace = .ok after) : Step before after

/-- Settings that some number of steps leads to. A step may go on from any settings that were
reached before it. -/
inductive Reachable : Settings → Prop
  | defaults : Reachable {}
  | step {before after : Settings} (reached : Reachable before) (step : Step before after) :
      Reachable after

/-- A computation of settings that may fail, but returns no others than usable ones. -/
def ReturnsUsable {ε : Type} (result : Except ε Settings) : Prop :=
  Outcome (fun _ => True) IsUsable result

variable {settings : Settings} {workspace : Workspace} {path : Option String}

theorem isUsable_defaults : ({} : Settings).IsUsable where
  optionalMarker := ⟨by decide, by decide +kernel⟩
  movePrefix := ⟨by decide, by decide +kernel⟩
  convertInfix := ⟨by decide, by decide +kernel⟩
  indent := by decide

theorem IsUsable.under (usable : settings.IsUsable) (given : String → List Datum) :
    (settings.under given).IsUsable := by
  have trimmed {current : String} (start : Text.IsTrimmed current) (values : List Datum) :
      Text.IsTrimmed (lastAccepted Datum.nameSetting? current values) :=
    lastAccepted_of_forall _ start (fun _ _ => Datum.isTrimmed_of_nameSetting?) values
  constructor
  · exact trimmed usable.optionalMarker _
  · exact trimmed usable.movePrefix _
  · exact trimmed usable.convertInfix _
  · exact lastAccepted_of_forall _ usable.indent (fun _ _ => Datum.le_of_widthSetting?) _

theorem IsUsable.layer (usable : settings.IsUsable) (table : List (Datum × Datum)) :
    ReturnsUsable (settings.layer table) := by
  by_cases finite : FiniteIndent table
  · rw [layer_eq finite]
    exact usable.under _
  · obtain ⟨negative, infinite⟩ : ∃ negative,
        Datum.lookup? "indent" table = some (.real (.infinite negative)) := by
      simpa only [FiniteIndent, ne_eq, not_forall, not_not] using finite
    rw [layer_of_infinite infinite]
    exact trivial

theorem IsUsable.layerDatum (usable : settings.IsUsable) (datum : Datum) :
    ReturnsUsable (settings.layerDatum datum) := by
  cases datum with
  | mapping table => exact usable.layer table
  | _ => exact usable

theorem ReturnsUsable.mapError {ε ε' : Type} {result : Except ε Settings}
    (returns : ReturnsUsable result) (change : ε → ε') : ReturnsUsable (result.mapError change) :=
  Outcome.mapError returns fun _ _ => trivial

/-- Whatever comes first, what comes last says which settings are returned. -/
theorem returnsUsable_bind {α ε : Type} {first : Except ε α} {next : α → Except ε Settings}
    (further : ∀ value, ReturnsUsable (next value)) : ReturnsUsable (first >>= next) := by
  cases first with
  | error => exact trivial
  | ok value => exact further value

theorem returnsUsable_ofFiles : ReturnsUsable (ofFiles workspace path) :=
  returnsUsable_bind fun _ => (isUsable_defaults.layerDatum _).mapError _

theorem returnsUsable_load : ReturnsUsable (load workspace path) :=
  returnsUsable_ofFiles.bind fun _ usable => (usable.layer _).mapError _

theorem returnsUsable_commandLine (options : CommandLine.Options) :
    ReturnsUsable (options.settings workspace) := by
  have loaded (path : Option String) : ReturnsUsable (do
      let loaded ← (load workspace path).mapError CommandLine.RunError.settings
      (loaded.layer options.overrides).mapError fun error => .settings (.layer error)) :=
    (returnsUsable_load.mapError _).bind fun _ usable => (usable.layer _).mapError _
  -- A command line names no file of settings, or leaves out the name and fails, or names one.
  rw [CommandLine.Options.settings]
  rcases options.config with _ | _ | path
  · exact loaded none
  · exact trivial
  · exact loaded (some path)

/-- Every step leads from usable settings to usable ones. -/
theorem Step.isUsable {after : Settings} (step : Step settings after) (usable : settings.IsUsable) :
    after.IsUsable := by
  cases step with
  | datum laid => exact (usable.layerDatum _).of_ok laid
  | environment laid => exact (usable.layer _).of_ok laid
  | overrides laid => exact (usable.layer _).of_ok laid
  | files given => exact returnsUsable_ofFiles.of_ok given
  | load given => exact returnsUsable_load.of_ok given
  | commandLine given => exact (returnsUsable_commandLine _).of_ok given

theorem Reachable.isUsable (reached : settings.Reachable) : settings.IsUsable := by
  induction reached with
  | defaults => exact isUsable_defaults
  | step _ step usable => exact step.isUsable usable

/-! ## All usable settings are reached -/

def table (settings : Settings) : List (Datum × Datum) :=
  [(.text "optional_marker", .text settings.optionalMarker),
    (.text "self_moves", .flag settings.selfMoves),
    (.text "self_conversions", .flag settings.selfConversions),
    (.text "strict", .flag settings.strict), (.text "move_prefix", .text settings.movePrefix),
    (.text "convert_infix", .text settings.convertInfix),
    (.text "indent", .whole settings.indent)]

/-- Whatever they are laid over, all of the given fields are accepted. -/
theorem IsUsable.layer_table (usable : settings.IsUsable) (before : Settings) :
    before.layer settings.table = .ok settings := by
  have finite : FiniteIndent settings.table := by
    intro negative
    simp [table, Datum.lookup?]
  have flag (current value : Bool) :
      lastAccepted (some ∘ Datum.flagSetting) current [.flag value] = value := rfl
  have name (current : String) {value : String} (trimmed : Text.IsTrimmed value) :
      lastAccepted Datum.nameSetting? current [.text value] = value := by
    simp [lastAccepted, Datum.nameSetting?_text trimmed]
  have width (current : Int) {value : Int} (positive : 1 ≤ value) :
      lastAccepted Datum.widthSetting? current [.whole value] = value := by
    simp [lastAccepted, Datum.widthSetting?_whole positive]
  rw [layer_eq finite, Settings.under]
  simp only [table, Datum.lookup?, String.reduceEq, ↓reduceIte, Option.toList_some, flag,
    name _ usable.optionalMarker, name _ usable.movePrefix, name _ usable.convertInfix,
    width _ usable.indent]

/-- Their own table leads from the defaults to usable settings. -/
theorem IsUsable.reachable (usable : settings.IsUsable) : settings.Reachable := by
  have laid : ({} : Settings).layerDatum (.mapping settings.table) = .ok settings :=
    usable.layer_table {}
  exact .step .defaults (.datum laid)

/-- Settings are reached from the defaults exactly if they are usable. Then a type can be wrapped in
the marker, and it is classified as that type made optional. -/
theorem reachable_usable (settings : Settings) :
    (settings.Reachable ↔ settings.IsUsable) ∧
    (settings.Reachable → ∀ type, ∃ wrapped,
      TypeExpr.optionalOf? settings.optionalMarker type = some wrapped ∧
      wrapped.shape settings.optionalMarker = ⟨true, type⟩) := by
  constructor
  · exact ⟨Reachable.isUsable, IsUsable.reachable⟩
  · intro reached type
    have marker := reached.isUsable.optionalMarker
    exact ⟨_, TypeExpr.named?_of_isTrimmed marker [type], TypeExpr.shape_applied rfl type⟩

/-- A directory without files, in an environment that gives a marker and an indentation. -/
def markedWorkspace : Workspace where
  place := "."
  look := fun _ => .missing
  environment := fun name =>
    [("CORRESPONDING_OPTIONAL_MARKER", " typing.Maybe\n"), ("CORRESPONDING_INDENT", "0")].lookup name

/-- A table with a blank name, a name with blanks around it, and an indentation in bytes. -/
def spacedTable : List (Datum × Datum) :=
  [(.text "optional_marker", .text "\t"), (.text "move_prefix", .text " copy "),
    (.text "indent", .bytes [0x32])]

/-- What a command line in the directory leads to. -/
def markedSettings : Settings :=
  { optionalMarker := "typing.Maybe", strict := true }

def spacedSettings : Settings :=
  { markedSettings with movePrefix := "copy", indent := 2 }

/-- Blanks around a name do not come into force, and neither do a blank name and an indentation of
zero. -/
theorem reachable_usable_spaced : spacedSettings.Reachable ∧ spacedSettings.IsUsable ∧
    ∃ wrapped, TypeExpr.optionalOf? "typing.Maybe" (.bare "int") = some wrapped ∧
      wrapped.shape "typing.Maybe" = ⟨true, .bare "int"⟩ := by
  have run : ({ strict := true } : CommandLine.Options).settings markedWorkspace =
      .ok markedSettings :=
    eq_ok_of_toOption (by decide +kernel)
  have laid : markedSettings.layerDatum (.mapping spacedTable) = .ok spacedSettings :=
    eq_ok_of_toOption (by decide +kernel)
  have reached : spacedSettings.Reachable :=
    .step (.step .defaults (.commandLine run)) (.datum laid)
  obtain ⟨usable, wraps⟩ := reachable_usable spacedSettings
  exact ⟨reached, usable.1 reached, wraps reached (.bare "int")⟩

end Settings

end Fieldwise
