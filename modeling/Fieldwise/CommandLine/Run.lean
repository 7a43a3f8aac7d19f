import Fieldwise.CommandLine.Help
import Fieldwise.CommandLine.Request
import Fieldwise.Loading
import Fieldwise.Log
import Fieldwise.Rendering
import Fieldwise.Report
import Fieldwise.Settings.Files

/-! # Runs

What the program does with a command line in a workspace: how it ends, what it prints and what it
writes. A run that ends in an error prints no module and no table, and writes no file. -/

namespace Fieldwise.CommandLine

/-- Why a run has no result. -/
inductive RunError where
  | settings (error : SettingsError)
  | source (error : SourceError)
  | scope (error : ScopeError)
  | rendering (error : NameClash)
  | unwritable (error : FileError)
  | noConfigPath
  | noRowCount
  | hugeRowCount
  deriving DecidableEq, Repr

namespace RunError

/-- Whether a run reports the error; otherwise it breaks off. -/
def isReported : RunError → Bool
  | settings error => error.isReported
  | source error => error.isReported
  | scope _ => true
  | rendering _ => true
  | unwritable _ => false
  | noConfigPath => false
  | noRowCount => false
  | hugeRowCount => false

def message : RunError → String
  | settings error => error.message
  | source error => error.message
  | scope error => error.message
  | rendering error => error.message
  | unwritable error => error.message
  | noConfigPath => "expected str, bytes or os.PathLike object, not list"
  | noRowCount => "'<' not supported between instances of 'list' and 'int'"
  | hugeRowCount => "int too big to convert"

end RunError

/-- What a run says beside its result. -/
inductive Notice where
  | line (text : String)
  | info (text : String)
  | warning (text : String)
  | error (reason : RunError)
  deriving DecidableEq, Repr

def Notice.text : Notice → String
  | line text => text
  | info text => "[INFO] " ++ text
  | warning text => "[WARN] " ++ text
  | error reason => "[ERROR] " ++ reason.message

inductive Ending where
  | returned
  | status (code : Nat)
  | broken (error : RunError)
  deriving DecidableEq, Repr

structure WrittenFile where
  path : Path
  text : String
  deriving DecidableEq, Repr

/-- All that a run leaves behind. -/
structure Outcome where
  ending : Ending
  output : String := ""
  notices : List Notice := []
  written : Option WrittenFile := none
  deriving DecidableEq, Repr

namespace Outcome

def ofError (error : RunError) : Outcome :=
  if error.isReported then { ending := .status 1, notices := [.error error] }
  else { ending := .broken error }

/-- An outcome with notices before its own. -/
def after (notices : List Notice) (outcome : Outcome) : Outcome :=
  { outcome with notices := notices ++ outcome.notices }

@[simp] theorem output_ofError (error : RunError) : (ofError error).output = "" := by
  unfold ofError
  split <;> rfl

@[simp] theorem written_ofError (error : RunError) : (ofError error).written = none := by
  unfold ofError
  split <;> rfl

@[simp] theorem ending_after (notices : List Notice) (outcome : Outcome) :
    (outcome.after notices).ending = outcome.ending := rfl

@[simp] theorem output_after (notices : List Notice) (outcome : Outcome) :
    (outcome.after notices).output = outcome.output := rfl

@[simp] theorem written_after (notices : List Notice) (outcome : Outcome) :
    (outcome.after notices).written = outcome.written := rfl

@[simp] theorem notices_after (notices : List Notice) (outcome : Outcome) :
    (outcome.after notices).notices = notices ++ outcome.notices := rfl

end Outcome

/-- The status that a generation ends with: zero if no schema was set aside. -/
def statusOf (generation : Generation) : Nat :=
  if generation.isOk then 0 else 1

namespace Options

/-- The table of the settings that a command line overrides. -/
def overrides (options : Options) : List (Datum × Datum) :=
  (if options.marker.isEmpty then [] else [(.text "optional_marker", .text options.marker)]) ++
    (if options.strict then [(.text "strict", .flag true)] else [])

def settings (workspace : Workspace) (options : Options) : Except RunError Settings := do
  let path ← match options.config with
    | none => .ok none
    | some (some path) => .ok (some path)
    | some none => .error .noConfigPath
  let loaded ← (Settings.load workspace path).mapError .settings
  (loaded.layer options.overrides).mapError fun error => .settings (.layer error)

/-- The notices of log records: all of them if the run is verbose, otherwise the texts of
warnings. -/
def logNotices (options : Options) (records : List LogRecord) : List Notice :=
  if options.verbose then records.map fun record => .line record.line
  else (records.filter (·.level = .warning)).map fun record => .line record.message

/-- The module that the rendered functions import the schemas from. -/
def origin (options : Options) : Option String :=
  if options.importFrom.isEmpty then none else some options.importFrom

def rows (options : Options) (generation : Generation) : List ReportRow :=
  match options.kind with
  | none => generation.rows none
  | some none => []
  | some (some kind) => generation.rows (some kind)

def table (options : Options) (generation : Generation) : Table :=
  if options.summary then Table.ofSummary (Fieldwise.summary (options.rows generation))
  else Table.ofRows (options.rows generation)

end Options

/-- The least number of rows that is too large. -/
def hugeRowCount : Int :=
  0x10000000000000000

/-- Renders a generation, and writes it if a file is named. -/
def renderOutcome (workspace : Workspace) (options : Options) (settings : Settings)
    (generation : Generation) : Outcome :=
  match generation.render settings options.origin with
  | .error error => .ofError (.rendering error)
  | .ok text =>
    if options.out.isEmpty then { ending := .status (statusOf generation), output := text }
    else
      let path := Path.ofText options.out
      match workspace.writeFault? path with
      | some fault => .ofError (.unwritable ⟨path.text, fault⟩)
      | none =>
        { ending := .status (statusOf generation)
          notices := [.info ("Wrote " ++ toString generation.operations.length ++
            " operations to " ++ path.text)]
          written := some ⟨path, text⟩ }

/-- Shows the first rows of the table of a generation. -/
def reportOutcome (options : Options) (generation : Generation) : Outcome :=
  match options.rowCount with
  | none => .ofError .noRowCount
  | some count =>
    if hugeRowCount ≤ count then .ofError .hugeRowCount
    else
      { ending := .status (statusOf generation)
        output := textOfLines ((options.table generation).head count).lines }

/-- Names the schemas that were set aside and gives the result of a generation. -/
def generationOutcome (command : Command) (workspace : Workspace) (options : Options)
    (settings : Settings) (generation : Generation) : Outcome :=
  let result := match command with
    | .generate => renderOutcome workspace options settings generation
    | .report => reportOutcome options generation
  result.after (generation.errors.map fun error => .warning ("Skipped schema: " ++ error.message))

/-- Generates the operations of schemas and goes on with them. -/
def scopeOutcome (command : Command) (workspace : Workspace) (options : Options)
    (settings : Settings) (schemas : List Schema) : Outcome :=
  Outcome.after (options.logNotices (Scope.log settings.generation schemas))
    (match Scope.generate settings.generation schemas with
      | .error error => .ofError (.scope error)
      | .ok generation => generationOutcome command workspace options settings generation)

/-- Loads the schemas of a source and goes on with them. -/
def sourceOutcome (command : Command) (workspace : Workspace) (options : Options)
    (settings : Settings) (source : String) : Outcome :=
  let path := Path.ofText source
  Outcome.after (options.logNotices (Schema.loadLog workspace settings.optionalMarker path))
    (match Schema.load workspace settings.optionalMarker path with
      | .error error => .ofError (.source error)
      | .ok schemas =>
        (scopeOutcome command workspace options settings schemas).after
          [.info ("Loaded " ++ toString schemas.length ++ " schemas from " ++ source)])

def runCommand (workspace : Workspace) (command : Command) (arguments : List String) : Outcome :=
  match Request.ofTexts command arguments with
  | .error error => { ending := .status 2, notices := (command.refusal error).map .line }
  | .ok .help => { ending := .status 0, output := textOfLines command.help }
  | .ok (.run source options) =>
    match options.settings workspace with
    | .error error => .ofError error
    | .ok settings => sourceOutcome command workspace options settings source

/-- Runs a command line. Without arguments the program shows its help. -/
def run (workspace : Workspace) : List String → Outcome
  | [] => { ending := .returned, output := textOfLines programHelp }
  | name :: arguments =>
    match Command.ofName? name with
    | some command => runCommand workspace command arguments
    | none => { ending := .status 2, notices := [.line ("Unknown command: " ++ name)] }

/-- The paths that a run can look at. -/
def watchedPaths : List String → List Path
  | [] => []
  | name :: arguments =>
    match (Command.ofName? name).map fun command => Request.ofTexts command arguments with
    | some (.ok (.run source options)) =>
      let out := Path.ofText options.out
      let config := match options.config with
        | some (some path) => [path]
        | _ => [Settings.ownFile, Settings.projectFile]
      Path.ofText source :: out :: out.parent :: config.map Path.ofText
    | _ => []

end Fieldwise.CommandLine
