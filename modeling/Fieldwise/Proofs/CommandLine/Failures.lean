import Fieldwise.CommandLine.Run
import Fieldwise.Proofs.Rendering.Contents
import Fieldwise.Proofs.Scope.Faults

/-! # Failures of runs

A run of `generate` finds its settings, loads its source, makes a pass over the schemas and renders
the module, and only then prints or writes it. Each stage can fail; `CommandLine.Fails` says what
counts as a failure. The run then leaves only the error and what it has said before
(`CommandLine.endsIn_of_fails`), and it reports no other errors (`CommandLine.error_mem_run_iff`).
-/

namespace Fieldwise.CommandLine

/-- Why a run of `generate` comes to no module: its settings, its source, a name that two schemas
share, a field that a schema declares twice under strict isolation, or a name that two functions
share. -/
inductive Fails (workspace : Workspace) (source : String) (options : Options) : RunError → Prop
  | settings {reason : RunError} (failed : options.settings workspace = .error reason) :
    Fails workspace source options reason
  | source {settings : Settings} {error : SourceError}
    (configured : options.settings workspace = .ok settings)
    (failed : Schema.load workspace settings.optionalMarker (Path.ofText source) = .error error) :
    Fails workspace source options (.source error)
  | sharedName {settings : Settings} {schemas : List Schema} {name : String}
    (configured : options.settings workspace = .ok settings)
    (loaded : Schema.load workspace settings.optionalMarker (Path.ofText source) = .ok schemas)
    (shared : IsFirstRepeat (schemas.map (·.name)) name) :
    Fails workspace source options (.scope (.duplicateSchema name))
  | strictIsolation {settings : Settings} {schemas : List Schema} {fault : DuplicateField}
    (configured : options.settings workspace = .ok settings) (strict : settings.strict)
    (loaded : Schema.load workspace settings.optionalMarker (Path.ofText source) = .ok schemas)
    (distinct : (schemas.map (·.name)).Nodup) (faulty : Scope.IsFirstFault schemas fault) :
    Fails workspace source options (.scope (.duplicateField fault))
  | collision {settings : Settings} {schemas : List Schema} {generation : Generation} {name : String}
    (configured : options.settings workspace = .ok settings)
    (loaded : Schema.load workspace settings.optionalMarker (Path.ofText source) = .ok schemas)
    (generated : Scope.generate settings.generation schemas = .ok generation)
    (repeats : IsFirstRepeat (generation.functionNames settings) name) :
    Fails workspace source options (.rendering ⟨name⟩)

/-- The text of a warning. -/
def Notice.warning? : Notice → Option String
  | warning text => some text
  | _ => none

/-- Whether a notice neither warns nor reports an error. -/
def Notice.isRemark : Notice → Bool
  | line _ => true
  | info _ => true
  | warning _ => false
  | error _ => false

namespace Outcome

/-- A run ends in an error: it leaves nothing else but what it said before. -/
def EndsIn (error : RunError) (outcome : Outcome) : Prop :=
  ∃ before, (∀ other, .error other ∉ before) ∧ outcome = (ofError error).after before

/-- A run delivers a text with a status: it prints the text, or writes it to the file that the options
name. -/
def Delivers (options : Options) (text : String) (status : Nat) (outcome : Outcome) : Prop :=
  outcome.ending = .status status ∧
    if options.out.isEmpty then outcome.output = text ∧ outcome.written = none
    else outcome.output = "" ∧ outcome.written = some ⟨Path.ofText options.out, text⟩

end Outcome

/-! ## Notices -/

def warningsOf (generation : Generation) : List Notice :=
  generation.errors.map fun error => .warning ("Skipped schema: " ++ error.message)

theorem error_notMem_warningsOf (generation : Generation) (reason : RunError) :
    .error reason ∉ warningsOf generation := by
  intro member
  obtain ⟨_, -, same⟩ := List.mem_map.1 member
  cases same

theorem filterMap_warning?_warningsOf (generation : Generation) :
    (warningsOf generation).filterMap Notice.warning? =
      generation.errors.map fun error => "Skipped schema: " ++ error.message := by
  rw [warningsOf, List.filterMap_map, ← List.filterMap_eq_map]
  rfl

section

variable {notices : List Notice}

theorem error_notMem_of_isRemark (remarks : ∀ notice ∈ notices, notice.isRemark) (reason : RunError) :
    .error reason ∉ notices := by
  intro member
  cases remarks _ member

theorem filterMap_warning?_of_isRemark (remarks : ∀ notice ∈ notices, notice.isRemark) :
    notices.filterMap Notice.warning? = [] := by
  rw [List.filterMap_eq_nil_iff]
  intro notice member
  have remark := remarks notice member
  cases notice with
  | warning _ => cases remark
  | _ => rfl

theorem isRemark_of_mem_logNotices (options : Options) (records : List LogRecord) :
    ∀ notice ∈ options.logNotices records, notice.isRemark := by
  intro notice member
  rw [Options.logNotices] at member
  split at member
  all_goals
    obtain ⟨_, -, rfl⟩ := List.mem_map.1 member
    rfl

end

namespace Outcome

theorem after_after (notices further : List Notice) (outcome : Outcome) :
    (outcome.after notices).after further = outcome.after (further ++ notices) := by
  rw [after, after, after, List.append_assoc]

theorem endsIn_ofError (error : RunError) : (ofError error).EndsIn error :=
  ⟨[], fun _ => List.not_mem_nil, rfl⟩

variable {outcome : Outcome} {error : RunError}

theorem EndsIn.after (ends : outcome.EndsIn error) {notices : List Notice}
    (noError : ∀ other, .error other ∉ notices) : (outcome.after notices).EndsIn error := by
  obtain ⟨before, noOther, rfl⟩ := ends
  refine ⟨notices ++ before, fun other => ?_, after_after ..⟩
  rw [List.mem_append, not_or]
  exact ⟨noError other, noOther other⟩

/-- The error that a run ends in is the only one that it reports. -/
theorem EndsIn.error_mem_iff (ends : outcome.EndsIn error) (reason : RunError) :
    .error reason ∈ outcome.notices ↔ error.isReported ∧ reason = error := by
  obtain ⟨before, noOther, rfl⟩ := ends
  rw [notices_after, List.mem_append, or_iff_right (noOther reason), ofError]
  split
  · rename_i reported
    simp [reported]
  · rename_i unreported
    simp [unreported]

theorem EndsIn.output (ends : outcome.EndsIn error) : outcome.output = "" := by
  obtain ⟨before, -, rfl⟩ := ends
  rw [output_after, output_ofError]

theorem EndsIn.written (ends : outcome.EndsIn error) : outcome.written = none := by
  obtain ⟨before, -, rfl⟩ := ends
  rw [written_after, written_ofError]

theorem EndsIn.ending (ends : outcome.EndsIn error) :
    outcome.ending = if error.isReported then .status 1 else .broken error := by
  obtain ⟨before, -, rfl⟩ := ends
  rw [ending_after, ofError]
  split <;> rfl

theorem filterMap_warning?_ofError (error : RunError) :
    (ofError error).notices.filterMap Notice.warning? = [] := by
  rw [ofError]
  split <;> rfl

end Outcome

/-! ## Stages of a run -/

variable {workspace : Workspace} {arguments : List String} {source : String} {options : Options}
  {settings : Settings} {schemas : List Schema} {generation : Generation} {text : String}
  {reason : RunError}

theorem run_of_settings_error
    (requested : Request.ofTexts .generate arguments = .ok (.run source options))
    (failed : options.settings workspace = .error reason) :
    run workspace ("generate" :: arguments) = .ofError reason := by
  change runCommand workspace .generate arguments = _
  simp only [runCommand, requested, failed]

theorem run_of_settings
    (requested : Request.ofTexts .generate arguments = .ok (.run source options))
    (configured : options.settings workspace = .ok settings) :
    run workspace ("generate" :: arguments) =
      sourceOutcome .generate workspace options settings source := by
  change runCommand workspace .generate arguments = _
  simp only [runCommand, requested, configured]

/-- Up to the pass over its schemas a run makes remarks only. -/
theorem run_of_loaded (requested : Request.ofTexts .generate arguments = .ok (.run source options))
    (configured : options.settings workspace = .ok settings)
    (loaded : Schema.load workspace settings.optionalMarker (Path.ofText source) = .ok schemas) :
    ∃ before, (∀ notice ∈ before, notice.isRemark) ∧ run workspace ("generate" :: arguments) =
      Outcome.after before (match Scope.generate settings.generation schemas with
        | .error error => .ofError (.scope error)
        | .ok generation =>
          (renderOutcome workspace options settings generation).after (warningsOf generation)) := by
  rw [run_of_settings requested configured, sourceOutcome, loaded]
  dsimp only
  rw [scopeOutcome, Outcome.after_after, Outcome.after_after]
  refine ⟨_, ?_, rfl⟩
  simp only [List.forall_mem_append, List.forall_mem_singleton]
  exact ⟨⟨isRemark_of_mem_logNotices _ _, rfl⟩, isRemark_of_mem_logNotices _ _⟩

/-- Rendering leaves a name clash or a place that cannot be written to, or it delivers the text. -/
theorem endsIn_renderOutcome_of_error {clash : NameClash}
    (failed : generation.render settings options.origin = .error clash) :
    (renderOutcome workspace options settings generation).EndsIn (.rendering clash) := by
  rw [renderOutcome, failed]
  exact Outcome.endsIn_ofError _

theorem endsIn_renderOutcome_of_fault
    (rendered : generation.render settings options.origin = .ok text)
    (named : options.out.isEmpty = false) {fault : FileFault}
    (unwritable : workspace.writeFault? (Path.ofText options.out) = some fault) :
    (renderOutcome workspace options settings generation).EndsIn
      (.unwritable ⟨(Path.ofText options.out).text, fault⟩) := by
  rw [renderOutcome, rendered]
  dsimp only
  rw [named, if_neg Bool.false_ne_true, unwritable]
  exact Outcome.endsIn_ofError _

theorem delivers_renderOutcome (rendered : generation.render settings options.origin = .ok text)
    (writable : options.out.isEmpty = false →
      workspace.writeFault? (Path.ofText options.out) = none) :
    (renderOutcome workspace options settings generation).Delivers options text
        (statusOf generation) ∧
      ∀ notice ∈ (renderOutcome workspace options settings generation).notices, notice.isRemark := by
  rw [renderOutcome, rendered, Outcome.Delivers]
  cases named : options.out.isEmpty with
  | true => exact ⟨⟨rfl, rfl, rfl⟩, List.forall_mem_nil _⟩
  | false =>
    dsimp only
    rw [writable named]
    exact ⟨⟨rfl, rfl, rfl⟩, List.forall_mem_singleton.2 rfl⟩

/-! ## Failures -/

/-- A run ends in the error of each of its stages. -/
theorem endsIn_of_fails (requested : Request.ofTexts .generate arguments = .ok (.run source options))
    (fails : Fails workspace source options reason) :
    (run workspace ("generate" :: arguments)).EndsIn reason := by
  cases fails with
  | settings failed =>
    rw [run_of_settings_error requested failed]
    exact Outcome.endsIn_ofError _
  | source configured failed =>
    rw [run_of_settings requested configured, sourceOutcome, failed]
    exact (Outcome.endsIn_ofError _).after (error_notMem_of_isRemark (isRemark_of_mem_logNotices _ _))
  | sharedName configured loaded shared =>
    obtain ⟨before, remarks, same⟩ := run_of_loaded requested configured loaded
    rw [same, ((Scope.failsInOrder_generate _ _).sharedName _).2 shared]
    exact (Outcome.endsIn_ofError _).after (error_notMem_of_isRemark remarks)
  | strictIsolation configured strict loaded distinct faulty =>
    obtain ⟨before, remarks, same⟩ := run_of_loaded requested configured loaded
    rw [same, ((Scope.failsInOrder_generate _ _).fault _).2 ⟨distinct, strict, faulty⟩]
    exact (Outcome.endsIn_ofError _).after (error_notMem_of_isRemark remarks)
  | collision configured loaded generated repeats =>
    obtain ⟨before, remarks, same⟩ := run_of_loaded requested configured loaded
    rw [same, generated]
    exact ((endsIn_renderOutcome_of_error ((Generation.render_eq_error_iff _).2 repeats)).after
      (error_notMem_warningsOf _)).after (error_notMem_of_isRemark remarks)

/-- A run fails, or it comes to a module. -/
theorem fails_or_rendered (workspace : Workspace) (source : String) (options : Options) :
    (∃ reason, Fails workspace source options reason) ∨
      ∃ settings schemas generation text, options.settings workspace = .ok settings ∧
        Schema.load workspace settings.optionalMarker (Path.ofText source) = .ok schemas ∧
        Scope.generate settings.generation schemas = .ok generation ∧
        generation.render settings options.origin = .ok text := by
  cases configured : options.settings workspace with
  | error error => exact .inl ⟨error, .settings configured⟩
  | ok settings =>
    cases loaded : Schema.load workspace settings.optionalMarker (Path.ofText source) with
    | error error => exact .inl ⟨_, .source configured loaded⟩
    | ok schemas =>
      have scope := Scope.failsInOrder_generate settings.generation schemas
      cases generated : Scope.generate settings.generation schemas with
      | error error =>
        cases error with
        | duplicateSchema name =>
          exact .inl ⟨_, .sharedName configured loaded ((scope.sharedName name).1 generated)⟩
        | duplicateField fault =>
          obtain ⟨distinct, strict, faulty⟩ := (scope.fault fault).1 generated
          exact .inl ⟨_, .strictIsolation configured strict loaded distinct faulty⟩
      | ok generation =>
        cases rendered : generation.render settings options.origin with
        | error clash =>
          exact .inl ⟨_, .collision configured loaded generated
            ((Generation.render_eq_error_iff clash).1 rendered)⟩
        | ok text => exact .inr ⟨settings, schemas, generation, text, rfl, loaded, generated, rendered⟩

theorem writable_or_fault (workspace : Workspace) (options : Options) :
    (options.out.isEmpty = false → workspace.writeFault? (Path.ofText options.out) = none) ∨
      options.out.isEmpty = false ∧
        ∃ fault, workspace.writeFault? (Path.ofText options.out) = some fault := by
  cases workspace.writeFault? (Path.ofText options.out) with
  | none => exact .inl fun _ => rfl
  | some fault =>
    cases options.out.isEmpty with
    | true => exact .inl nofun
    | false => exact .inr ⟨rfl, fault, rfl⟩

/-- Rendering reports no error but a name clash. -/
theorem error_notMem_renderOutcome
    (rendered : generation.render settings options.origin = .ok text) (reason : RunError) :
    .error reason ∉ (renderOutcome workspace options settings generation).notices := by
  obtain writable | ⟨named, fault, unwritable⟩ := writable_or_fault workspace options
  · exact error_notMem_of_isRemark (delivers_renderOutcome rendered writable).2 reason
  · rw [(endsIn_renderOutcome_of_fault rendered named unwritable).error_mem_iff]
    rintro ⟨reported, -⟩
    cases reported

theorem filterMap_warning?_renderOutcome : (renderOutcome workspace options settings
    generation).notices.filterMap Notice.warning? = [] := by
  rw [renderOutcome]
  split
  · exact Outcome.filterMap_warning?_ofError _
  · split
    · rfl
    · dsimp only
      split
      · exact Outcome.filterMap_warning?_ofError _
      · rfl

/-- After a pass a run warns of the schemas set aside, and then it renders. -/
theorem run_of_generated
    (requested : Request.ofTexts .generate arguments = .ok (.run source options))
    (configured : options.settings workspace = .ok settings)
    (loaded : Schema.load workspace settings.optionalMarker (Path.ofText source) = .ok schemas)
    (generated : Scope.generate settings.generation schemas = .ok generation) :
    ∃ before, (∀ reason, .error reason ∉ before) ∧
      before.filterMap Notice.warning? =
        (generation.errors.map fun error => "Skipped schema: " ++ error.message) ∧
      run workspace ("generate" :: arguments) =
        (renderOutcome workspace options settings generation).after before := by
  obtain ⟨before, remarks, same⟩ := run_of_loaded requested configured loaded
  refine ⟨before ++ warningsOf generation, fun reason => ?_, ?_, ?_⟩
  · rw [List.mem_append, not_or]
    exact ⟨error_notMem_of_isRemark remarks reason, error_notMem_warningsOf generation reason⟩
  · rw [List.filterMap_append, filterMap_warning?_of_isRemark remarks, List.nil_append,
      filterMap_warning?_warningsOf]
  · rw [same, generated, Outcome.after_after]

/-- The errors that a run of `generate` reports are its failures, as far as they are reported. -/
theorem error_mem_run_iff (workspace : Workspace) (arguments : List String) (reason : RunError) :
    .error reason ∈ (run workspace ("generate" :: arguments)).notices ↔
      reason.isReported ∧ ∃ source options,
        Request.ofTexts .generate arguments = .ok (.run source options) ∧
          Fails workspace source options reason := by
  constructor
  · intro reported
    cases requested : Request.ofTexts .generate arguments with
    | error error =>
      change _ ∈ (runCommand workspace .generate arguments).notices at reported
      rw [runCommand, requested] at reported
      obtain ⟨_, -, same⟩ := List.mem_map.1 reported
      cases same
    | ok request =>
      cases request with
      | help =>
        change _ ∈ (runCommand workspace .generate arguments).notices at reported
        rw [runCommand, requested] at reported
        cases reported
      | run source options =>
        obtain ⟨failure, fails⟩ | ⟨settings, schemas, generation, text, configured, loaded, generated,
          rendered⟩ := fails_or_rendered workspace source options
        · rw [(endsIn_of_fails requested fails).error_mem_iff] at reported
          obtain ⟨isReported, rfl⟩ := reported
          exact ⟨isReported, source, options, rfl, fails⟩
        · obtain ⟨before, noError, -, same⟩ :=
            run_of_generated requested configured loaded generated
          rw [same, Outcome.notices_after, List.mem_append] at reported
          exact (reported.elim (noError reason) (error_notMem_renderOutcome rendered reason)).elim
  · rintro ⟨isReported, source, options, requested, fails⟩
    exact ((endsIn_of_fails requested fails).error_mem_iff reason).2 ⟨isReported, rfl⟩

end Fieldwise.CommandLine
