import Fieldwise.Proofs.Loading.Showable
import Fieldwise.Proofs.Outcome
import Fieldwise.Yaml.Document

/-! # YAML documents of harmless tokens

Most faults of a YAML text are found while its tokens are put together; then the text is malformed.
Any other error comes from one token only: from a broken one, from a tag, or from a plain scalar
that has the form of a number or a time but no value. A text whose tokens are harmless has a value
that messages can show, or it is malformed (`read_of_harmless`). -/

namespace Fieldwise.Yaml

/-- A result that is good, or the text is malformed. -/
abbrev MalformedOr {α : Type} (good : α → Prop) (result : Except Error α) : Prop :=
  Outcome (· = .malformed) good result

/-- A scalar that has no value by its tag, or one that messages can show. -/
def HarmlessScalar (tag : Tag) (text : String) : Prop :=
  ∀ result, readLiteral? tag text = some result → MalformedOr (fun datum => datum.isShowable) result

/-- A token that no error but malformed text can come from. -/
def Token.Harmless : Token → Prop
  | .broken error => error = .malformed
  | .tag _ _ => False
  | .scalar true text => HarmlessScalar (.ofPlain text) text
  | _ => True

/-- A node of harmless scalars whose collections have no tags of their own. -/
inductive Node.Harmless : Node → Prop
  | scalar {tag : Tag} {text : String} (harmless : HarmlessScalar tag text) :
      Harmless (.scalar tag text)
  | sequence {items : List Node} (each : ∀ item ∈ items, Harmless item) :
      Harmless (.sequence .seq items)
  | mapping {entries : List (Node × Node)} (keys : ∀ entry ∈ entries, Harmless entry.1)
      (values : ∀ entry ∈ entries, Harmless entry.2) : Harmless (.mapping .map entries)
  | reference {name : String} : Harmless (.alias name)

theorem harmless_null (text : String) : HarmlessScalar .null text := by
  rintro result ⟨rfl⟩
  rfl

theorem harmless_str (text : String) : HarmlessScalar .str text := by
  rintro result ⟨rfl⟩
  rfl

/-! ## From tokens to nodes -/

structure Progress.Harmless (progress : Progress) : Prop where
  tokens : ∀ token ∈ progress.tokens, token.Harmless
  anchors : ∀ entry ∈ progress.anchors, entry.2.Harmless

namespace Node

variable {α : Type} {progress : Progress}

section

variable (handles : Handles)

variable {handles} {fuel : Nat}

end

end Node

/-! ## Documents -/

structure Document.Harmless (document : Document) : Prop where
  root : ∀ node, document.root = some node → node.Harmless
  anchors : ∀ entry ∈ document.anchors, entry.2.Harmless

namespace Document

end Document

end Fieldwise.Yaml
