import Fieldwise.Datum
import Fieldwise.Files.Path
import Fieldwise.Text.Utf8

/-! # Workspaces

All that a run can see of the world: what stands at a path, the name of the working directory, and
the variables of the environment. How deep the calls of a run may be nested is part of its world as
well. A workspace can be made from a list of files. -/

namespace Fieldwise

/-- What stands at a path. A path is blocked if it leads through a file. -/
inductive Entry where
  | file (bytes : List UInt8)
  | directory
  | missing
  | blocked
  deriving DecidableEq, Repr

inductive FileFault where
  | missing
  | directory
  | blocked
  | nullCharacter
  deriving DecidableEq, Repr

structure FileError where
  path : String
  fault : FileFault
  deriving DecidableEq, Repr

def FileError.message (error : FileError) : String :=
  match error.fault with
  | .missing => "[Errno 2] No such file or directory: " ++ Text.quoted error.path
  | .directory => "[Errno 21] Is a directory: " ++ Text.quoted error.path
  | .blocked => "[Errno 20] Not a directory: " ++ Text.quoted error.path
  | .nullCharacter => "embedded null byte"

/-- Which manifests are nested so deep that they exhaust the call stack, and the text of the error that
this gives. The text of a manifest is decoded by the suffix of its file, and the types of the document
are read with a marker. -/
structure CallStack where
  decoding : String → String → Option String := fun _ _ => none
  checking : String → Datum → Option String := fun _ _ => none

/-- What a run can see of the world. -/
structure Workspace where
  place : String
  look : Path → Entry
  environment : String → Option String
  stack : CallStack := {}

namespace Workspace

/-- Whether a path could name anything at all. -/
def isNameable (path : Path) : Bool :=
  path.steps.all fun step => !step.toList.contains '\x00'

def has (workspace : Workspace) (path : Path) : Bool :=
  isNameable path &&
    match workspace.look path with
    | .file _ | .directory => true
    | .missing | .blocked => false

/-- The bytes of a file. Messages call it by `shown`. -/
def readBytes (workspace : Workspace) (path : Path) (shown : String) :
    Except FileError (List UInt8) :=
  if isNameable path then
    match workspace.look path with
    | .file bytes => .ok bytes
    | .directory => .error ⟨shown, .directory⟩
    | .missing => .error ⟨shown, .missing⟩
    | .blocked => .error ⟨shown, .blocked⟩
  else .error ⟨shown, .nullCharacter⟩

/-- Why nothing can be written to a path, if nothing can. -/
def writeFault? (workspace : Workspace) (path : Path) : Option FileFault :=
  if isNameable path then
    match workspace.look path with
    | .file _ => none
    | .directory => some .directory
    | .blocked => some .blocked
    | .missing =>
      match workspace.look path.parent with
      | .directory => none
      | .file _ | .blocked => some .blocked
      | .missing => some .missing
  else some .nullCharacter

end Workspace

/-! ## Workspaces from files -/

/-- Files by the steps that lead to them from the working directory. -/
abbrev FileList := List (List String × List UInt8)

namespace FileList

def ofTexts (files : List (String × List UInt8)) : FileList :=
  files.map fun (text, bytes) => ((Path.ofText text).steps, bytes)

/-- Whether steps lead to a directory: the working directory or one on the way to a file. -/
def isDirectory (files : FileList) (steps : List String) : Bool :=
  steps.isEmpty || files.any fun file => steps.isPrefixOf file.1 && steps.length < file.1.length

/-- Where steps lead, starting in a directory; nothing if they leave the working directory for good.
The steps to the place are given last first. -/
def follow (files : FileList) (here : List String) : List String → Except Entry (List String)
  | [] => .ok here
  | ".." :: rest =>
    match here with
    | [] => .error (if rest.all (· == "..") then .directory else .missing)
    | _ :: above =>
      if isDirectory files here.reverse then follow files above rest
      else if (files.lookup here.reverse).isSome then .error .blocked
      else .error .missing
  | step :: rest =>
    if isDirectory files here.reverse then follow files (step :: here) rest
    else if (files.lookup here.reverse).isSome then .error .blocked
    else .error .missing

/-- What stands at a path. Nothing is known of absolute paths but the root. -/
def look (files : FileList) (path : Path) : Entry :=
  if path.root.isEmpty then
    match follow files [] path.steps with
    | .error entry => entry
    | .ok here =>
      match files.lookup here.reverse with
      | some bytes => .file bytes
      | none => if isDirectory files here.reverse then .directory else .missing
  else if path.steps.isEmpty then .directory
  else .missing

/-- Where a path leads from the working directory, if it stays in it. -/
def location? (files : FileList) (path : Path) : Option (List String) :=
  if path.root.isEmpty then (follow files [] path.steps).toOption.map List.reverse else none

/-- The files that were there before, with one of them written. -/
def write (steps : List String) (bytes : List UInt8) (files : FileList) : FileList :=
  (steps, bytes) :: files.filter (·.1 != steps)

end FileList

end Fieldwise
