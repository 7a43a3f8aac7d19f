import Fieldwise.Files.Workspace
import Fieldwise.Settings.Layer
import Fieldwise.Toml.Document

/-! # Settings from files

A file of settings is named, or it is searched: the project's own file comes first, and the project
description counts where the own file is absent or has an empty table. The variables of the
environment are laid over what files say. -/

namespace Fieldwise

/-- Why there are no settings. -/
inductive SettingsError where
  | notFound (path : String)
  | malformed (path : String) (error : Toml.Error)
  | unreadable (error : FileError)
  | notText (error : Text.Utf8Error)
  | layer (error : LayerError)
  deriving DecidableEq, Repr

namespace SettingsError

def lead : SettingsError → String
  | notFound _ => "config file not found: "
  | malformed path (.malformed) => "invalid TOML in " ++ path ++ ": "
  | _ => ""

def cause : SettingsError → String
  | notFound path => path
  | malformed _ error => error.message
  | unreadable error => error.message
  | notText error => error.message
  | layer error => error.message

def message (error : SettingsError) : String :=
  error.lead ++ error.cause

def isReported : SettingsError → Bool
  | notFound _ => true
  | malformed _ .malformed => true
  | _ => false

end SettingsError

namespace Settings

/-- The name of the project's own file of settings. -/
def ownFile : String :=
  "corresponding.toml"

/-- The name of the file that describes a project. -/
def projectFile : String :=
  "pyproject.toml"

/-- The value that holds the settings in the table of a whole file: in a project description a
table of tools knows it, elsewhere it is a table of its own or the whole file. -/
def tableOf (name : String) (root : Toml.Entries) : Option Datum :=
  if name = projectFile then
    match Datum.lookup? "tool" root with
    | some (.mapping tools) => Datum.lookup? "corresponding" tools
    | _ => none
  else
    match Datum.lookup? "generator" root with
    | some (.mapping table) => some (.mapping table)
    | _ => some (.mapping root)

def readTable (workspace : Workspace) (path : Path) (shown : String) :
    Except SettingsError (Option Datum) := do
  let bytes ← (workspace.readBytes path shown).mapError .unreadable
  let text ← (Text.decode bytes).mapError .notText
  let root ← (Toml.read text).mapError (.malformed shown)
  return tableOf path.name root

/-- Whether a value says nothing, so that the search goes on. -/
def isSilent : Option Datum → Bool
  | none => true
  | some (.mapping []) => true
  | some _ => false

/-- How messages call a file of the working directory. -/
def shownFile (workspace : Workspace) (name : String) : String :=
  workspace.place ++ "/" ++ name

/-- Searches files of the working directory for settings; the first that says something counts. -/
def search (workspace : Workspace) : List String → Except SettingsError (Option Datum)
  | [] => .ok none
  | name :: rest =>
    let path := Path.ofText name
    if workspace.has path then do
      let table ← readTable workspace path (shownFile workspace name)
      if isSilent table then search workspace rest else return table
    else search workspace rest

/-- The value that holds the settings of a named file, or of the files that are searched. -/
def selectTable (workspace : Workspace) : Option String → Except SettingsError (Option Datum)
  | some text =>
    let path := Path.ofText text
    if workspace.has path then readTable workspace path path.text
    else .error (.notFound path.text)
  | none => search workspace [ownFile, projectFile]

def ofFiles (workspace : Workspace) (path : Option String) : Except SettingsError Settings := do
  let table ← selectTable workspace path
  (layerDatum (table.getD .null) {}).mapError .layer

/-- The settings in force: defaults, files, then the environment. -/
def load (workspace : Workspace) (path : Option String) : Except SettingsError Settings := do
  let settings ← ofFiles workspace path
  (settings.layerEnvironment environmentLead workspace.environment).mapError .layer

end Settings

end Fieldwise
