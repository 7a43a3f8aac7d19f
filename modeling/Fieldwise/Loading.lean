import Fieldwise.Extraction
import Fieldwise.Files.Workspace
import Fieldwise.Json
import Fieldwise.Manifest
import Fieldwise.Yaml.Document

/-! # Loading schemas

The schemas of a scope come from a module or from a manifest; the suffix of the file tells which, in
any mixture of cases. A manifest may be nested too deep for the call stack of the process. -/

namespace Fieldwise

/-- Why there are no schemas. -/
inductive SourceError where
  | unsupportedSource (path : String)
  | unsupportedManifest (suffix path : String)
  | unreadable (path : String) (error : FileError)
  | notText (error : Text.Utf8Error)
  | json (path : String) (error : Json.Error)
  | yaml (path : String) (error : Yaml.Error)
  | manifest (error : ManifestError)
  | extraction (error : ExtractionError)
  deriving DecidableEq, Repr

namespace SourceError

def isReported : SourceError → Bool
  | unsupportedSource _ => true
  | unsupportedManifest .. => true
  | unreadable _ ⟨_, .nullCharacter⟩ => false
  | unreadable .. => true
  | notText _ => false
  | json _ (.fault ..) => true
  | json _ (.longNumber _) => false
  | json _ (.exhausted _) => false
  | yaml _ error => error == .malformed
  | manifest _ => true
  | extraction error => error.isReported

def lead : SourceError → String
  | unsupportedSource path => "unsupported schema source " ++ path ++ " "
  | unsupportedManifest suffix path =>
    "unsupported manifest type " ++ Text.quoted suffix ++ " for " ++ path
  | unreadable _ ⟨_, .nullCharacter⟩ => ""
  | unreadable path _ => "cannot read " ++ path ++ ": "
  | json path (.fault ..) => "cannot decode " ++ path ++ ": "
  | yaml path .malformed => "cannot decode " ++ path ++ ": "
  | manifest error => error.lead
  | extraction error => error.lead
  | _ => ""

def cause : SourceError → String
  | unsupportedSource _ => "(expected .py, .json, .yaml or .yml)"
  | unsupportedManifest .. => ""
  | unreadable _ error => error.message
  | notText error => error.message
  | json _ error => error.message
  | yaml _ error => error.message
  | manifest error => error.cause
  | extraction error => error.cause

def message (error : SourceError) : String :=
  error.lead ++ error.cause

end SourceError

namespace Schema

def manifestSuffixes : List String :=
  [".json", ".yaml", ".yml"]

/-- The suffix of a path in lower case. -/
def suffixOf (path : Path) : String :=
  Text.lowercase path.suffix

def readText (workspace : Workspace) (path : Path) : Except SourceError String := do
  let bytes ← (workspace.readBytes path path.text).mapError (.unreadable path.text)
  (Text.decodeLines bytes).mapError .notText

def readDocument (path : Path) (text : String) : Except SourceError Datum :=
  if suffixOf path = ".json" then (Json.read text).mapError (.json path.text)
  else (Yaml.read text).mapError (.yaml path.text)

/-- Goes on unless the call stack is exhausted by a manifest. -/
def requireStack (path : Path) : Option String → Except SourceError Unit
  | none => .ok ()
  | some message =>
    .error (if suffixOf path = ".json" then .json path.text (.exhausted message)
      else .yaml path.text (.exhausted message))

def checkManifest (workspace : Workspace) (marker : String) (path : Path) (document : Datum) :
    Except SourceError (List Schema) := do
  requireStack path (workspace.stack.checking marker document)
  if Manifest.isUnshowable marker document then throw (.yaml path.text .unwritable)
  else (Manifest.schemas path.text marker document).mapError .manifest

def readManifest (workspace : Workspace) (marker : String) (path : Path) (text : String) :
    Except SourceError (List Schema) := do
  requireStack path (workspace.stack.decoding (suffixOf path) text)
  checkManifest workspace marker path (← readDocument path text)

def loadManifest (workspace : Workspace) (marker : String) (path : Path) :
    Except SourceError (List Schema) := do
  if suffixOf path ∈ manifestSuffixes then
    readManifest workspace marker path (← readText workspace path)
  else throw (.unsupportedManifest (suffixOf path) path.text)

def loadModule (workspace : Workspace) (marker : String) (path : Path) :
    Except SourceError (List Schema) := do
  let text ← readText workspace path
  (ofModule path.text marker text).mapError .extraction

def load (workspace : Workspace) (marker : String) (path : Path) :
    Except SourceError (List Schema) :=
  if suffixOf path = ".py" then loadModule workspace marker path
  else if suffixOf path ∈ manifestSuffixes then loadManifest workspace marker path
  else .error (.unsupportedSource path.text)

/-- What loading reports about its own work: the record types of a module as far as they were
found. -/
def loadLog (workspace : Workspace) (marker : String) (path : Path) : List LogRecord :=
  if suffixOf path = ".py" then
    match readText workspace path with
    | .ok text => (scanModule path.text marker text).1.map extractionLog
    | .error _ => []
  else []

end Schema

end Fieldwise
