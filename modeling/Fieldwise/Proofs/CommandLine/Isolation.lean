import Fieldwise.Proofs.CommandLine.Failures
import Fieldwise.Proofs.Loading.Containment
import Fieldwise.Proofs.Schema.Pruned

/-! # Runs on manifests with faulty schemas

A lenient run on a manifest delivers what it would deliver if the schemas that declare a field twice
were not there; it only warns of them and ends with another status. A run that fails delivers
nothing (`CommandLine.run_generate_isolated`). -/

namespace Fieldwise

namespace Schema

/-- A file with a manifest: its suffix is that of one, and its text is read as a document. The call
stack bears both. -/
structure Provides (workspace : Workspace) (marker : String) (path : Path) (document : Datum) :
    Prop where
  suffix : suffixOf path ∈ manifestSuffixes
  read : ∃ text, Holds workspace path text ∧
    workspace.stack.decoding (suffixOf path) text = none ∧ readDocument path text = .ok document
  checking : workspace.stack.checking marker document = none

section

variable {workspace : Workspace} {marker : String} {path : Path} {document : Datum}
  {schemas : List Schema}

/-- A file that encodes a text in JSON, with plain line ends, provides the document of that text if
nothing exhausts the call stack. -/
theorem provides_of_json (json : suffixOf path = ".json") (nameable : Workspace.isNameable path)
    {text : String} (file : workspace.look path = .file (text.toList.flatMap String.utf8EncodeChar))
    (plain : Text.plainNewlines text.toList = text.toList) (read : Json.read text = .ok document)
    (boundless : workspace.stack = {}) : Provides workspace marker path document := by
  refine ⟨?_, ⟨text, ⟨nameable, text.toList, file, ?_⟩, ?_, ?_⟩, ?_⟩
  · rw [json]
    exact List.mem_cons_self
  · rw [plain, String.ofList_toList]
  · rw [boundless]
  · rw [readDocument, if_pos json, read]
    rfl
  · rw [boundless]

theorem load_of_provides (provides : Provides workspace marker path document)
    (valid : Manifest.schemas path.text marker document = .ok schemas) :
    load workspace marker path = .ok schemas := by
  obtain ⟨suffix, ⟨text, holds, decoding, read⟩, checking⟩ := provides
  have checked : checkManifest workspace marker path document = .ok schemas := by
    rw [checkManifest, checking, Manifest.isUnshowable_of_schemas valid, valid]
    rfl
  have readBack : readManifest workspace marker path text = .ok schemas := by
    rw [readManifest, decoding, read]
    exact checked
  rw [load, if_neg (suffixOf_ne_of_mem suffix), if_pos suffix, loadManifest, if_pos suffix,
    (readText_eq_ok_iff text).2 holds]
  exact readBack

end

end Schema

namespace CommandLine

/-- A run of `generate` on a manifest, with all that it finds before it loads the schemas. -/
structure ManifestRun where
  workspace : Workspace
  arguments : List String
  source : String
  options : Options
  settings : Settings
  document : Datum
  requested : Request.ofTexts .generate arguments = .ok (.run source options)
  configured : options.settings workspace = .ok settings
  provides : Schema.Provides workspace settings.optionalMarker (Path.ofText source) document

namespace ManifestRun

def outcome (run : ManifestRun) : Outcome :=
  CommandLine.run run.workspace ("generate" :: run.arguments)

def target (run : ManifestRun) : Path :=
  Path.ofText run.options.out

def schemas (run : ManifestRun) : Except ManifestError (List Schema) :=
  Manifest.schemas (Path.ofText run.source).text run.settings.optionalMarker run.document

/-- A run with the same other options and settings on the manifest without the schemas that declare a
field twice, where the same can be written. -/
structure Prunes (pruned whole : ManifestRun) : Prop where
  options : pruned.options = whole.options
  settings : pruned.settings = whole.settings
  document : Manifest.IsPruned whole.document pruned.document
  writable : pruned.workspace.writeFault? whole.target = whole.workspace.writeFault? whole.target

/-- What a run on a manifest leaves, compared to a run on the pruned manifest. -/
structure Isolates (whole pruned : ManifestRun) (schemas : List Schema) : Prop where
  output : whole.outcome.output = pruned.outcome.output
  written : whole.outcome.written = pruned.outcome.written
  warnings : List.Forall₂
    (fun schema warning => ∃ fault : DuplicateField, schema.HasFault fault ∧
      warning = "Skipped schema: " ++ fault.message)
    (schemas.filter (¬ ·.Indexable)) (whole.outcome.notices.filterMap Notice.warning?)
  delivers : (∀ reason, .error reason ∉ pruned.outcome.notices) →
    (∃ generation text, Scope.generate whole.settings.generation schemas = .ok generation ∧
      generation.render whole.settings whole.options.origin = .ok text ∧
      pruned.outcome.Delivers whole.options text 0 ∧
      whole.outcome.Delivers whole.options text
        (if ∀ schema ∈ schemas, schema.Indexable then 0 else 1)) ∨
    ∃ fault, whole.options.out.isEmpty = false ∧
      whole.workspace.writeFault? whole.target = some fault ∧
      pruned.outcome.ending = .broken (.unwritable ⟨whole.target.text, fault⟩) ∧
      whole.outcome.ending = .broken (.unwritable ⟨whole.target.text, fault⟩)

end ManifestRun

variable {workspace : Workspace} {options : Options} {schemas : List Schema}

/-! ## Runs on pruned manifests -/

/-- What a run prints and writes does not depend on the schemas set aside. -/
theorem renderOutcome_withoutErrors (settings : Settings) (generation : Generation)
    {other : Workspace} (writable : other.writeFault? (Path.ofText options.out) =
      workspace.writeFault? (Path.ofText options.out)) :
    (renderOutcome other options settings { generation with errors := [] }).output =
        (renderOutcome workspace options settings generation).output ∧
      (renderOutcome other options settings { generation with errors := [] }).written =
        (renderOutcome workspace options settings generation).written := by
  have same : ({ generation with errors := [] } : Generation).render settings options.origin =
      generation.render settings options.origin := rfl
  rw [renderOutcome, renderOutcome, same]
  split
  · exact ⟨rfl, rfl⟩
  · split
    · exact ⟨rfl, rfl⟩
    · dsimp only
      rw [writable]
      split <;> exact ⟨rfl, rfl⟩

theorem statusOf_eq {generation : Generation} (isolates : Scope.Isolates schemas generation) :
    statusOf generation = if ∀ schema ∈ schemas, schema.Indexable then 0 else 1 := by
  have none : generation.isOk ↔ ∀ schema ∈ schemas, schema.Indexable := by
    rw [Generation.isOk, List.isEmpty_iff, ← List.length_eq_zero_iff, ← isolates.errors.length_eq,
      List.length_eq_zero_iff, List.filter_eq_nil_iff]
    simp
  simp only [statusOf, none]

namespace ManifestRun

variable {whole pruned : ManifestRun}

theorem isolates_of_prunes (prunes : pruned.Prunes whole) {schemas : List Schema}
    (valid : whole.schemas = .ok schemas) (distinct : (schemas.map (·.name)).Nodup)
    (lenient : whole.settings.strict = false) : whole.Isolates pruned schemas := by
  obtain ⟨generation, generated⟩ : ∃ generation,
      Scope.generate whole.settings.generation schemas = .ok generation :=
    ⟨_, Scope.generate_of_distinct lenient distinct⟩
  have isolates := Scope.isolates_of_generate generated
  have requested := pruned.requested
  have configured := pruned.configured
  have provides := pruned.provides
  rw [prunes.options] at requested configured
  rw [prunes.settings] at configured provides
  have loaded := Schema.load_of_provides whole.provides valid
  have prunedLoaded := Schema.load_of_provides provides
    (Manifest.schemas_pruned valid prunes.document _)
  obtain ⟨before, -, warned, same⟩ :=
    run_of_generated whole.requested whole.configured loaded generated
  obtain ⟨prunedBefore, noError, -, prunedSame⟩ := run_of_generated requested configured prunedLoaded
    (Scope.generate_filter_indexable lenient distinct generated)
  change whole.outcome = _ at same
  change pruned.outcome = _ at prunedSame
  obtain ⟨output, written⟩ := renderOutcome_withoutErrors whole.settings generation
    prunes.writable
  refine ⟨?_, ?_, ?_, fun unreported => ?_⟩
  · rw [same, prunedSame, Outcome.output_after, Outcome.output_after, output]
  · rw [same, prunedSame, Outcome.written_after, Outcome.written_after, written]
  · rw [same, Outcome.notices_after, List.filterMap_append, warned,
      filterMap_warning?_renderOutcome, List.append_nil, List.forall₂_map_right_iff]
    exact isolates.errors.imp fun schema fault faulty => ⟨fault, faulty, rfl⟩
  · cases rendered : generation.render whole.settings whole.options.origin with
    | error clash =>
      have ends : (renderOutcome pruned.workspace whole.options whole.settings
          { generation with errors := [] }).EndsIn (.rendering clash) :=
        endsIn_renderOutcome_of_error rendered
      have ends := ends.after noError
      rw [← prunedSame] at ends
      exact (unreported _ ((ends.error_mem_iff _).2 ⟨rfl, rfl⟩)).elim
    | ok text =>
      have prunedRendered : Generation.render whole.settings whole.options.origin
          { generation with errors := [] } = .ok text := rendered
      obtain writable | ⟨named, fault, unwritable⟩ := writable_or_fault whole.workspace whole.options
      · refine .inl ⟨generation, text, generated, rendered, ?_, ?_⟩
        · rw [prunedSame]
          exact (delivers_renderOutcome prunedRendered fun named =>
            prunes.writable.trans (writable named)).1
        · rw [same, ← statusOf_eq isolates]
          exact (delivers_renderOutcome rendered writable).1
      · refine .inr ⟨fault, named, unwritable, ?_, ?_⟩
        · rw [prunedSame]
          exact (endsIn_renderOutcome_of_fault prunedRendered named
            (prunes.writable.trans unwritable)).ending
        · rw [same]
          exact (endsIn_renderOutcome_of_fault rendered named unwritable).ending

end ManifestRun

/-- On a valid manifest with distinct names, with effective strict off, a run leaves what it leaves
on the manifest without the schemas that declare a field twice, but for a warning for each of these
and the status. Every run reports exactly its failures; then it ends with status 1, and it has
printed no module and written no file. -/
theorem run_generate_isolated :
    (∀ (whole pruned : ManifestRun) (schemas : List Schema), whole.schemas = .ok schemas →
      (schemas.map (·.name)).Nodup → whole.settings.strict = false → pruned.Prunes whole →
        whole.Isolates pruned schemas) ∧
    ∀ (workspace : Workspace) (arguments : List String) (reason : RunError),
      (.error reason ∈ (run workspace ("generate" :: arguments)).notices ↔
        reason.isReported ∧ ∃ source options,
          Request.ofTexts .generate arguments = .ok (.run source options) ∧
            Fails workspace source options reason) ∧
      (.error reason ∈ (run workspace ("generate" :: arguments)).notices →
        (run workspace ("generate" :: arguments)).ending = .status 1 ∧
          (run workspace ("generate" :: arguments)).output = "" ∧
          (run workspace ("generate" :: arguments)).written = none) := by
  refine ⟨fun whole pruned schemas valid distinct lenient prunes =>
    ManifestRun.isolates_of_prunes prunes valid distinct lenient, fun workspace arguments reason =>
      ⟨error_mem_run_iff workspace arguments reason, fun reported => ?_⟩⟩
  obtain ⟨isReported, source, options, requested, fails⟩ :=
    (error_mem_run_iff workspace arguments reason).1 reported
  have ends := endsIn_of_fails requested fails
  refine ⟨?_, ends.output, ends.written⟩
  rw [ends.ending, if_pos isReported]

/-- A manifest of two schemas; the second declares a field twice. -/
def wholeText : String :=
  "[\x7b\"name\":\"A\",\"fields\":[\x7b\"name\":\"x\",\"type\":\x7b\"name\":\"T\"\x7d\x7d]\x7d," ++
    "\x7b\"name\":\"B\",\"fields\":[\x7b\"name\":\"x\",\"type\":\x7b\"name\":\"T\"\x7d\x7d," ++
    "\x7b\"name\":\"x\",\"type\":\x7b\"name\":\"U\"\x7d\x7d]\x7d]"

def prunedText : String :=
  "[\x7b\"name\":\"A\",\"fields\":[\x7b\"name\":\"x\",\"type\":\x7b\"name\":\"T\"\x7d\x7d]\x7d]"

def twoManifests : Workspace where
  place := "work"
  look := fun path =>
    if path = Path.ofText "whole.json" then .file (wholeText.toList.flatMap String.utf8EncodeChar)
    else if path = Path.ofText "pruned.json" then
      .file (prunedText.toList.flatMap String.utf8EncodeChar)
    else .missing
  environment := fun _ => none

/-- The record of the schema without a repeated field. -/
def keptItem : Datum :=
  .mapping [(.text "name", .text "A"), (.text "fields", .list
    [.mapping [(.text "name", .text "x"), (.text "type", .mapping [(.text "name", .text "T")])]])]

def removedItem : Datum :=
  .mapping [(.text "name", .text "B"), (.text "fields", .list
    [.mapping [(.text "name", .text "x"), (.text "type", .mapping [(.text "name", .text "T")])],
      .mapping [(.text "name", .text "x"), (.text "type", .mapping [(.text "name", .text "U")])]])]

theorem read_wholeText : Json.read wholeText = .ok (.list [keptItem, removedItem]) :=
  eq_ok_of_toOption (by decide +kernel)

theorem read_prunedText : Json.read prunedText = .ok (.list [keptItem]) :=
  eq_ok_of_toOption (by decide +kernel)

def wholeRun : ManifestRun where
  workspace := twoManifests
  arguments := ["whole.json"]
  source := "whole.json"
  options := {}
  settings := {}
  document := .list [keptItem, removedItem]
  requested := eq_ok_of_toOption (by decide +kernel)
  configured := eq_ok_of_toOption (by decide +kernel)
  provides := Schema.provides_of_json (by decide) (by decide)
    (by simp only [twoManifests, if_true]) (by decide +kernel) read_wholeText rfl

def prunedRun : ManifestRun where
  workspace := twoManifests
  arguments := ["pruned.json"]
  source := "pruned.json"
  options := {}
  settings := {}
  document := .list [keptItem]
  requested := eq_ok_of_toOption (by decide +kernel)
  configured := eq_ok_of_toOption (by decide +kernel)
  provides :=
    have other : Path.ofText "pruned.json" ≠ Path.ofText "whole.json" := by decide
    Schema.provides_of_json (by decide) (by decide)
      (by simp only [twoManifests, other, if_true, if_false]) (by decide +kernel) read_prunedText rfl

/-- Both runs print the same module. With strict isolation there is none. -/
theorem run_generate_isolated_twoManifests :
    ∃ schemas, wholeRun.schemas = .ok schemas ∧ (schemas.map (·.name)).Nodup ∧
      wholeRun.settings.strict = false ∧ prunedRun.Prunes wholeRun ∧
      (∀ reason, .error reason ∉ prunedRun.outcome.notices) ∧
      (∃ text, prunedRun.outcome.Delivers {} text 0 ∧ wholeRun.outcome.Delivers {} text 1) ∧
      (run twoManifests ["generate", "--strict", "whole.json"]).ending = .status 1 ∧
      (run twoManifests ["generate", "--strict", "whole.json"]).output = "" := by
  have valid : wholeRun.schemas = .ok [⟨"A", [⟨"x", .bare "T"⟩], false⟩,
      ⟨"B", [⟨"x", .bare "T"⟩, ⟨"x", .bare "U"⟩], false⟩] :=
    eq_ok_of_toOption (by decide +kernel)
  have distinct : ([⟨"A", [⟨"x", .bare "T"⟩], false⟩,
      ⟨"B", [⟨"x", .bare "T"⟩, ⟨"x", .bare "U"⟩], false⟩].map Schema.name).Nodup := by decide
  have prunes : prunedRun.Prunes wholeRun := ⟨rfl, rfl, by rfl, rfl⟩
  have unreported : ∀ reason, .error reason ∉ prunedRun.outcome.notices :=
    error_notMem_of_isRemark (List.all_eq_true.1 (by decide +kernel))
  obtain ⟨isolated, failing⟩ := run_generate_isolated
  obtain ⟨generation, text, -, -, prunedDelivered, delivered⟩ | ⟨_, named, -⟩ :=
    (isolated wholeRun prunedRun _ valid distinct rfl prunes).delivers unreported
  · have configured : Options.settings twoManifests { strict := true } = .ok { strict := true } :=
      eq_ok_of_toOption (by decide +kernel)
    have fails : Fails twoManifests "whole.json" { strict := true }
        (.scope (.duplicateField ⟨"B", "x"⟩)) :=
      .strictIsolation configured rfl (Schema.load_of_provides wholeRun.provides valid) distinct
        ⟨[_], _, [], rfl, by decide, rfl, ["x"], [], rfl, by decide, by decide⟩
    obtain ⟨reports, reported⟩ := failing twoManifests ["--strict", "whole.json"] _
    obtain ⟨ending, output, -⟩ := reported (reports.2
      ⟨rfl, "whole.json", { strict := true }, eq_ok_of_toOption (by decide +kernel), fails⟩)
    exact ⟨_, valid, distinct, rfl, prunes, unreported, ⟨text, prunedDelivered, delivered⟩, ending,
      output⟩
  · cases named

end CommandLine

end Fieldwise
