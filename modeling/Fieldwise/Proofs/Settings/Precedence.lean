import Fieldwise.CommandLine.Run
import Fieldwise.Proofs.Settings.Layers
import Fieldwise.Proofs.Validation
import Mathlib.Data.List.ReduceOption

/-! # The precedence of settings

The settings of a run come from three tables: one that files of the working directory give, the
variables of the environment, and the options of the command line. Of the two files the project's
own one is asked first, and the other one only where the first is absent or has an empty table. Each
field is the last accepted of the values that the three give for its key
(`CommandLine.Options.settings_lastAccepted`). -/

namespace Fieldwise

/-- What a file of settings holds: nothing if it is absent, otherwise the table that it is read
as. -/
def Workspace.Holds (workspace : Workspace) (name : String) : Option Toml.Entries → Prop
  | none => workspace.has (Path.ofText name) = false
  | some root => ∃ bytes text, workspace.look (Path.ofText name) = .file bytes ∧
      Text.decode bytes = .ok text ∧ Toml.read text = .ok root

namespace Settings

def subtable? (key : String) (table : Toml.Entries) : Option Toml.Entries :=
  match Datum.lookup? key table with
  | some (.mapping entries) => some entries
  | _ => none

/-- The table that the files give: of the project's own file that under `generator`, or the whole
file if there is none; where this says nothing, the one under `tool.corresponding` of the project
description. -/
def selectedTable (own project : Option Toml.Entries) : Toml.Entries :=
  let table := (own.map fun root => (subtable? "generator" root).getD root).getD []
  if table = [] then
    (project.bind fun root => (subtable? "tool" root).bind (subtable? "corresponding")).getD []
  else table

/-- The value that the environment gives for a key: a variable that is not empty. -/
def environmentValue? (lookup : String → Option String) (key : String) : Option Datum :=
  ((lookup (variableName environmentLead key)).filter (· ≠ "")).map .text

end Settings

namespace CommandLine.Options

/-- The value that a command line gives for a key: there are options for the marker, if it is not
empty, and for strictness. -/
def value? (options : Options) (key : String) : Option Datum :=
  if key = "optional_marker" ∧ options.marker ≠ "" then some (.text options.marker)
  else if key = "strict" ∧ options.strict then some (.flag true)
  else none

/-- The values that a run is given for a key: that of the files, that of the environment, and that
of the command line. -/
def given (workspace : Workspace) (table : Toml.Entries) (options : Options) (key : String) :
    List Datum :=
  [Datum.lookup? key table, Settings.environmentValue? workspace.environment key,
    options.value? key].reduceOption

end CommandLine.Options

/-! ## The table of the files -/

namespace Settings

variable {workspace : Workspace} {name : String}

theorem search_of_absent (absent : workspace.Holds name none) (rest : List String) :
    search workspace (name :: rest) = search workspace rest := by
  have missing : workspace.has (Path.ofText name) = false := absent
  rw [search, missing]
  rfl

/-- A file that is there and says something ends the search. -/
theorem search_of_held {root : Toml.Entries} (held : workspace.Holds name (some root))
    (nameable : Workspace.isNameable (Path.ofText name)) (rest : List String) :
    search workspace (name :: rest) =
      if isSilent (tableOf (Path.ofText name).name root) then search workspace rest
      else .ok (tableOf (Path.ofText name).name root) := by
  obtain ⟨bytes, text, found, decoded, read⟩ := held
  have present : workspace.has (Path.ofText name) = true := by
    rw [Workspace.has, nameable, found]
    rfl
  have table : readTable workspace (Path.ofText name) (shownFile workspace name) =
      .ok (tableOf (Path.ofText name).name root) := by
    simp [readTable, Workspace.readBytes, nameable, found, decoded, read, Except.mapError, bind,
      Except.bind, pure, Except.pure]
  rw [search, present, if_pos rfl, table]
  rfl

theorem path_ownFile : (Path.ofText ownFile).name = ownFile ∧
    Workspace.isNameable (Path.ofText ownFile) := by
  decide +kernel

theorem path_projectFile : (Path.ofText projectFile).name = projectFile ∧
    Workspace.isNameable (Path.ofText projectFile) := by
  decide +kernel

/-- The own file has its settings under `generator`, or they are the whole file. -/
theorem tableOf_ownFile (root : Toml.Entries) :
    tableOf ownFile root = some (.mapping ((subtable? "generator" root).getD root)) := by
  have apart : ownFile ≠ projectFile := by decide
  rw [tableOf, if_neg apart, subtable?]
  cases Datum.lookup? "generator" root with
  | none => rfl
  | some datum => cases datum <;> rfl

/-- Laying what a table holds under a key over settings is laying the table under that key; what is
no table changes nothing. -/
theorem layerDatum_lookup? (key : String) (table : Toml.Entries) (settings : Settings) :
    layerDatum ((Datum.lookup? key table).getD .null) settings =
      settings.layer ((subtable? key table).getD []) := by
  rw [subtable?]
  cases Datum.lookup? key table with
  | none => rfl
  | some datum => cases datum <;> rfl

/-- The project description has its settings under `tool.corresponding`, or it has none. -/
theorem layerDatum_tableOf_projectFile (root : Toml.Entries) (settings : Settings) :
    layerDatum ((tableOf projectFile root).getD .null) settings =
      settings.layer (((subtable? "tool" root).bind (subtable? "corresponding")).getD []) := by
  rw [tableOf, if_pos rfl, subtable?]
  cases Datum.lookup? "tool" root with
  | none => rfl
  | some datum =>
    cases datum with
    | mapping tools => exact layerDatum_lookup? "corresponding" tools settings
    | _ => rfl

/-- The project description counts where the own file says nothing. -/
theorem layer_search_projectFile {project : Option Toml.Entries}
    (held : workspace.Holds projectFile project) (settings : Settings) :
    ∃ table, search workspace [projectFile] = .ok table ∧
      layerDatum (table.getD .null) settings = settings.layer ((project.bind fun root =>
        (subtable? "tool" root).bind (subtable? "corresponding")).getD []) := by
  obtain ⟨named, nameable⟩ := path_projectFile
  cases project with
  | none => exact ⟨none, search_of_absent held [], rfl⟩
  | some root =>
    rw [search_of_held held nameable, named]
    split
    · rename_i silent
      refine ⟨none, rfl, ?_⟩
      rw [Option.bind_some, ← layerDatum_tableOf_projectFile]
      cases found : tableOf projectFile root with
      | none => rfl
      | some datum =>
        rw [found] at silent
        match datum with
        | .mapping [] => rfl
    · exact ⟨_, rfl, layerDatum_tableOf_projectFile root settings⟩

/-- The settings that the files give are the defaults under one table. -/
theorem ofFiles_eq {own project : Option Toml.Entries} (ownHeld : workspace.Holds ownFile own)
    (projectHeld : workspace.Holds projectFile project) :
    ofFiles workspace none =
      (({} : Settings).layer (selectedTable own project)).mapError .layer := by
  obtain ⟨table, found, layered⟩ := layer_search_projectFile projectHeld {}
  obtain ⟨named, nameable⟩ := path_ownFile
  have searched : ∃ table, search workspace [ownFile, projectFile] = .ok table ∧
      layerDatum (table.getD .null) {} = ({} : Settings).layer (selectedTable own project) := by
    cases own with
    | none => exact ⟨table, (search_of_absent ownHeld _).trans found, layered⟩
    | some root =>
      rw [search_of_held ownHeld nameable, named, tableOf_ownFile]
      cases entries : (subtable? "generator" root).getD root with
      | nil =>
        refine ⟨table, found, ?_⟩
        rw [layered, selectedTable, Option.map_some, entries]
        rfl
      | cons entry rest =>
        refine ⟨_, rfl, ?_⟩
        rw [selectedTable, Option.map_some, entries]
        rfl
  obtain ⟨table, found, layered⟩ := searched
  rw [ofFiles, selectTable, found, ← layered]
  rfl

/-! ## The tables of the environment and of the command line -/

/-- The value that a table with an entry for each name of a list has for a key. -/
theorem lookup?_filterMap (value? : String → Option Datum) (key : String) (names : List String) :
    Datum.lookup? key (names.filterMap fun name =>
      (value? name).map fun value => (Datum.text name, value)) =
        if key ∈ names then value? key else none := by
  induction names with
  | nil => rfl
  | cons name rest ih =>
    rw [List.filterMap_cons]
    by_cases same : name = key
    · subst same
      cases given : value? name with
      | none =>
        dsimp only [Option.map_none]
        rw [ih, given]
        simp
      | some value => simp [Datum.lookup?]
    · have apart : ¬ key = name := Ne.symm same
      cases value? name with
      | none =>
        dsimp only [Option.map_none]
        rw [ih]
        simp [apart]
      | some value => simp [Datum.lookup?, same, apart, ih]

theorem lookup?_environmentTable (lookup : String → Option String) {key : String}
    (known : key ∈ keys) : Datum.lookup? key (environmentTable environmentLead lookup) =
      environmentValue? lookup key := by
  have entries : environmentTable environmentLead lookup = keys.filterMap fun name =>
      (environmentValue? lookup name).map fun value => (Datum.text name, value) := by
    rw [environmentTable]
    congr 1
    funext name
    rw [environmentValue?]
    cases lookup (variableName environmentLead name) with
    | none => rfl
    | some value => by_cases empty : value = "" <;> simp [empty, Option.filter]
  rw [entries, lookup?_filterMap, if_pos known]

/-- Variables are texts, so the environment gives no infinite number. -/
theorem finiteIndent_environmentTable (lookup : String → Option String) :
    FiniteIndent (environmentTable environmentLead lookup) := by
  intro negative infinite
  rw [lookup?_environmentTable lookup (by decide), environmentValue?] at infinite
  obtain ⟨_, _, real⟩ := Option.map_eq_some_iff.1 infinite
  nomatch real

end Settings

namespace CommandLine.Options

variable (options : Options)

theorem lookup?_overrides (key : String) :
    Datum.lookup? key options.overrides = options.value? key := by
  rw [overrides, value?]
  by_cases marker : key = "optional_marker"
  · subst marker
    by_cases empty : options.marker = "" <;> cases options.strict <;> simp [empty, Datum.lookup?]
  · have unmarked : "optional_marker" ≠ key := Ne.symm marker
    by_cases strict : key = "strict"
    · subst strict
      by_cases empty : options.marker = "" <;> cases options.strict <;> simp [empty, Datum.lookup?]
    · have lax : "strict" ≠ key := Ne.symm strict
      by_cases empty : options.marker = "" <;> cases options.strict <;>
        simp [empty, marker, unmarked, strict, lax, Datum.lookup?]

/-- Options are a text and a flag, so a command line gives no infinite number. -/
theorem finiteIndent_overrides : Settings.FiniteIndent options.overrides := by
  intro negative infinite
  rw [lookup?_overrides, value?, if_neg fun ⟨same, _⟩ => absurd same (by decide),
    if_neg fun ⟨same, _⟩ => absurd same (by decide)] at infinite
  nomatch infinite

/-! ## All three -/

variable {workspace : Workspace} {own project : Option Toml.Entries} {options}

/-- Without a named file, the settings of a run are the defaults under three tables. -/
theorem settings_eq (unnamed : options.config = none)
    (ownHeld : workspace.Holds Settings.ownFile own)
    (projectHeld : workspace.Holds Settings.projectFile project) :
    options.settings workspace =
      ([Settings.selectedTable own project,
        Settings.environmentTable Settings.environmentLead workspace.environment,
        options.overrides].foldlM (fun (settings : Settings) table => settings.layer table)
          {}).mapError fun error => .settings (.layer error) := by
  rw [settings, unnamed]
  change ((Settings.load workspace none).mapError RunError.settings >>= _) = _
  rw [Settings.load, Settings.ofFiles_eq ownHeld projectHeld, List.foldlM_cons]
  cases ({} : Settings).layer (Settings.selectedTable own project) with
  | error error => rfl
  | ok first =>
    change ((Settings.layerEnvironment _ _ first).mapError SettingsError.layer).mapError
      RunError.settings >>= _ = Except.mapError _ (List.foldlM _ first _)
    rw [Settings.layerEnvironment, List.foldlM_cons]
    cases first.layer (Settings.environmentTable Settings.environmentLead
      workspace.environment) with
    | error error => rfl
    | ok second =>
      change (second.layer options.overrides).mapError _ =
        Except.mapError _ (List.foldlM _ second _)
      rw [List.foldlM_cons]
      cases second.layer options.overrides <;> rfl

/-- Every field of the settings of a run is the last accepted of the values that the files, the
environment and the command line give for its key, and otherwise the default. -/
theorem settings_lastAccepted (unnamed : options.config = none)
    (ownHeld : workspace.Holds Settings.ownFile own)
    (projectHeld : workspace.Holds Settings.projectFile project)
    (finite : Settings.FiniteIndent (Settings.selectedTable own project)) :
    options.settings workspace =
      .ok (({} : Settings).under
        (options.given workspace (Settings.selectedTable own project))) := by
  rw [settings_eq unnamed ownHeld projectHeld, Settings.layers_eq]
  · refine congrArg Except.ok (Settings.under_congr (fun key known => ?_) _)
    rw [given, List.reduceOption, ← Settings.lookup?_environmentTable _ known,
      ← lookup?_overrides]
    exact List.filterMap_map.symm
  · simp [finite, Settings.finiteIndent_environmentTable, finiteIndent_overrides]

def layeredText : String :=
  "[generator]\nindent = 2\nstrict = true\nmove_prefix = \"file\"\n"

/-- A directory with an own file of settings, in an environment with three variables. -/
def layeredWorkspace : Workspace where
  place := "."
  look := FileList.look (FileList.ofTexts
    [(Settings.ownFile, layeredText.toList.map fun char => UInt8.ofNat char.toNat)])
  environment := fun name =>
    [("CORRESPONDING_INDENT", "0"), ("CORRESPONDING_MOVE_PREFIX", " copy "),
      ("CORRESPONDING_STRICT", "no")].lookup name

def layeredRoot : Toml.Entries :=
  [(.text "generator", .mapping [(.text "indent", .whole 2), (.text "strict", .flag true),
    (.text "move_prefix", .text "file")])]

/-- The indentation of the environment and the marker of the command line are refused, so the file
and the default stay in force for them. -/
theorem settings_lastAccepted_refused :
    layeredWorkspace.Holds Settings.ownFile (some layeredRoot) ∧
    layeredWorkspace.Holds Settings.projectFile none ∧
    Settings.FiniteIndent (Settings.selectedTable (some layeredRoot) none) ∧
    ({ marker := " " } : Options).settings layeredWorkspace =
      .ok { movePrefix := "copy", indent := 2 } := by
  have ownHeld : layeredWorkspace.Holds Settings.ownFile (some layeredRoot) :=
    ⟨layeredText.toList.map fun char => UInt8.ofNat char.toNat, layeredText, by decide +kernel,
      eq_ok_of_toOption (by decide +kernel), eq_ok_of_toOption (by decide +kernel)⟩
  have projectHeld : layeredWorkspace.Holds Settings.projectFile none := by
    unfold Workspace.Holds
    decide +kernel
  have finite : Settings.FiniteIndent (Settings.selectedTable (some layeredRoot) none) := by
    intro negative infinite
    cases infinite
  refine ⟨ownHeld, projectHeld, finite, ?_⟩
  rw [settings_lastAccepted rfl ownHeld projectHeld finite]
  refine congrArg Except.ok ?_
  decide +kernel

end CommandLine.Options

end Fieldwise
