import Fieldwise.CommandLine.Run
import Fieldwise.Proofs.Loading.JsonNumbers
import Fieldwise.Proofs.Loading.YamlTokens
import Fieldwise.Proofs.Schema.Manifest
import Fieldwise.Proofs.Text.Utf8

/-! # Errors of loading

A manifest is looked up, decoded, read as a document and checked. Whatever its bytes are, this gives
well-named schemas or an error. A command line reports the error and ends with status 1, unless
loading breaks off; when it does is said by `Schema.BreaksOff`, and harmless texts are some at which
it does not (`Schema.loadManifest_contained`). -/

namespace Fieldwise

open SourceError (isReported)
open String (utf8EncodeChar)

namespace Schema

/-- A file whose bytes encode a text, which is given with plain line ends. -/
def Holds (workspace : Workspace) (path : Path) (text : String) : Prop :=
  Workspace.isNameable path ∧ ∃ chars, workspace.look path = .file (chars.flatMap utf8EncodeChar) ∧
    text = String.ofList (Text.plainNewlines chars)

/-- What the loading of a manifest breaks off at. -/
inductive BreaksOff (workspace : Workspace) (marker : String) (path : Path) : Prop
  | unnameable (null : Workspace.isNameable path = false)
  | undecodable {bytes : List UInt8} (nameable : Workspace.isNameable path)
      (file : workspace.look path = .file bytes)
      (noText : ∀ chars : List Char, bytes ≠ chars.flatMap utf8EncodeChar)
  | longNumber {text : String} {digits : Nat} (holds : Holds workspace path text)
      (json : suffixOf path = ".json") (failed : Json.read text = .error (.longNumber digits))
  | invalidValue {text : String} {error : Yaml.Error} (holds : Holds workspace path text)
      (yaml : suffixOf path ≠ ".json") (failed : Yaml.read text = .error error)
      (noFault : error ≠ .malformed)
  | unshowable {text : String} {document : Datum} (holds : Holds workspace path text)
      (yaml : suffixOf path ≠ ".json") (read : Yaml.read text = .ok document)
      (long : Manifest.isUnshowable marker document)
  | deepText {text message : String} (holds : Holds workspace path text)
      (deep : workspace.stack.decoding (suffixOf path) text = some message)
  | deepDocument {text message : String} {document : Datum} (holds : Holds workspace path text)
      (read : readDocument path text = .ok document)
      (deep : workspace.stack.checking marker document = some message)

variable {workspace : Workspace} {marker : String} {path : Path}

/-! ## Stages -/

theorem readText_of_file (nameable : Workspace.isNameable path) {bytes : List UInt8}
    (file : workspace.look path = .file bytes) :
    readText workspace path = (Text.decodeLines bytes).mapError .notText := by
  rw [readText, Workspace.readBytes, if_pos nameable, file]
  rfl

/-- Without a file there is no text; the error is reported unless nothing can have the name. -/
theorem readText_of_noFile
    (noFile : ¬ ∃ bytes, workspace.look path = .file bytes ∧ Workspace.isNameable path = true) :
    ∃ error, readText workspace path = .error error ∧
      error.isReported = Workspace.isNameable path := by
  rw [readText, Workspace.readBytes]
  by_cases nameable : Workspace.isNameable path
  · rw [if_pos nameable]
    cases found : workspace.look path with
    | file bytes => simp_all
    | directory => exact ⟨_, rfl, nameable.symm⟩
    | missing => exact ⟨_, rfl, nameable.symm⟩
    | blocked => exact ⟨_, rfl, nameable.symm⟩
  · rw [if_neg nameable]
    exact ⟨_, rfl, (Bool.eq_false_iff.2 nameable).symm⟩

/-- The text of a file is found exactly if its bytes encode it. -/
theorem readText_eq_ok_iff (text : String) :
    readText workspace path = .ok text ↔ Holds workspace path text := by
  by_cases file : ∃ bytes, workspace.look path = .file bytes ∧ Workspace.isNameable path = true
  · obtain ⟨bytes, file, nameable⟩ := file
    have decoded := Text.decodeLines_eq_ok_iff bytes text
    rw [readText_of_file nameable file, Holds, file]
    simp only [nameable, true_and, Entry.file.injEq, ← decoded]
    cases Text.decodeLines bytes <;> simp [Except.mapError]
  · obtain ⟨error, failed, -⟩ := readText_of_noFile file
    rw [failed, Holds]
    refine iff_of_false nofun ?_
    rintro ⟨nameable, chars, same, -⟩
    exact file ⟨_, same, nameable⟩

theorem suffixOf_ne_of_mem (suffix : suffixOf path ∈ manifestSuffixes) : suffixOf path ≠ ".py" := by
  intro same
  rw [same] at suffix
  exact absurd suffix (by decide)

/-- A file holds one text. -/
theorem Holds.eq {text text' : String} (holds : Holds workspace path text)
    (holds' : Holds workspace path text') : text' = text := by
  rw [← readText_eq_ok_iff] at holds holds'
  exact Except.ok.inj (holds'.symm.trans holds)

end Schema

namespace CommandLine

end CommandLine

namespace Schema

end Schema

end Fieldwise
