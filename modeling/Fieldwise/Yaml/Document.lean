import Fieldwise.Yaml.Literal
import Fieldwise.Yaml.Node

/-! # YAML documents

The data that nodes stand for. Of several nodes without a value the one that is nested least counts,
and of those the first. Entries that are merged into a mapping come before its own, which take
precedence. -/

namespace Fieldwise.Yaml

/-- Why a node has no value, and how deep the node is nested. -/
structure NodeError where
  depth : Nat
  error : Error

/-- Two values, or the fault that counts. -/
def NodeError.both {α β : Type} (first : Except NodeError α) (second : Except NodeError β) :
    Except NodeError (α × β) :=
  match first, second with
  | .ok left, .ok right => .ok (left, right)
  | .ok _, .error fault => .error fault
  | .error fault, .ok _ => .error fault
  | .error fault, .error fault' => .error (if fault'.depth < fault.depth then fault' else fault)

/-- All values, or the fault that counts. -/
def NodeError.all {α : Type} : List (Except NodeError α) → Except NodeError (List α)
  | [] => .ok []
  | first :: rest =>
    (NodeError.both first (NodeError.all rest)).map fun (value, values) => value :: values

def NodeError.malformed {α : Type} (depth : Nat) : Except NodeError α :=
  .error ⟨depth, .malformed⟩

namespace Node

mutual

/-- Puts nodes in the places of aliases, through at most `hops` aliases inside each other. -/
def expand (anchors : Anchors) (hops : Nat) : Node → Node
  | .alias name =>
    match hops, anchors.lookup name with
    | hops + 1, some node => expand anchors hops node
    | _, _ => empty
  | .scalar tag text => .scalar tag text
  | .sequence tag items => .sequence tag (expandAll anchors hops items)
  | .mapping tag entries => .mapping tag (expandEntries anchors hops entries)
termination_by node => (hops, sizeOf node)

def expandAll (anchors : Anchors) (hops : Nat) : List Node → List Node
  | [] => []
  | item :: rest => expand anchors hops item :: expandAll anchors hops rest
termination_by items => (hops, sizeOf items)

def expandEntries (anchors : Anchors) (hops : Nat) :
    List (Node × Node) → List (Node × Node)
  | [] => []
  | (key, value) :: rest =>
    (expand anchors hops key, expand anchors hops value) :: expandEntries anchors hops rest
termination_by entries => (hops, sizeOf entries)

end

def tag? : Node → Option Tag
  | .scalar tag _ => some tag
  | .sequence tag _ => some tag
  | .mapping tag _ => some tag
  | .alias _ => none

/-- The text of a scalar. A mapping with a default value stands for it. -/
def text? : Nat → Node → Option String
  | _, .scalar _ text => some text
  | fuel + 1, .mapping _ entries =>
    (entries.find? fun entry => entry.1.tag? == some .value).bind fun entry => text? fuel entry.2
  | _, _ => none

/-- The mark of a default value becomes an ordinary key. -/
def plainKey : Node → Node
  | .scalar .value text => .scalar .str text
  | .sequence .value items => .sequence .str items
  | .mapping .value entries => .mapping .str entries
  | node => node

/-- The entries of a mapping after merging: those of merged mappings first, of a list of mappings
those of the last one first. -/
def mergedEntries : Nat → List (Node × Node) → Option (List (Node × Node))
  | 0, _ => none
  | fuel + 1, entries => do
    let merged ← (entries.filter fun entry => entry.1.tag? == some .merge).mapM fun entry =>
      match entry.2 with
      | .mapping _ inner => mergedEntries fuel inner
      | .sequence _ items => do
        let parts ← items.mapM fun item =>
          match item with
          | .mapping _ inner => mergedEntries fuel inner
          | _ => none
        return parts.reverse.flatten
      | _ => none
    let own := (entries.filter fun entry => entry.1.tag? != some .merge).map fun entry =>
      (plainKey entry.1, entry.2)
    return merged.flatten ++ own

def isKey : Datum → Bool
  | .list _ | .set _ | .mapping _ => false
  | _ => true

/-- The value of a node that is nested `depth` deep. -/
def value : Nat → Nat → Node → Except NodeError Datum
  | 0, depth, _ => NodeError.malformed depth
  | fuel + 1, depth, node =>
    let inner := value fuel (depth + 1)
    let pair := fun (entry : Node × Node) => NodeError.both (inner entry.1) (inner entry.2)
    let keyed := fun (entry : Node × Node) =>
      let key := (inner entry.1).bind fun key =>
        if isKey key then .ok key else NodeError.malformed (depth + 1)
      NodeError.both key (inner entry.2)
    let mapping := fun (entries : List (Node × Node)) =>
      match mergedEntries (fuel + 1) entries with
      | none => NodeError.malformed (depth + 1)
      | some entries => NodeError.all (entries.map keyed)
    match node.tag? with
    | none => .ok .null
    | some tag =>
      match tag, node with
      | .seq, .sequence _ items => (NodeError.all (items.map inner)).map .list
      | .map, .mapping _ entries => (mapping entries).map fun entries =>
          .mapping (Datum.ofEntries entries)
      | .set, .mapping _ entries => (mapping entries).map fun entries =>
          .set ((Datum.ofEntries entries).map (·.1))
      | .omap, .sequence _ items | .pairs, .sequence _ items =>
        (NodeError.all (items.map fun item =>
          match item with
          | .mapping _ [single] => pair single
          | _ => NodeError.malformed (depth + 1))).map fun entries =>
            .list (entries.map fun (key, value) => .tuple [key, value])
      | .seq, _ | .map, _ | .set, _ | .omap, _ | .pairs, _ => NodeError.malformed (depth + 1)
      | tag, node =>
        match node.text? fuel with
        | none => NodeError.malformed depth
        | some text =>
          match readLiteral? tag text with
          | some read => read.mapError fun error => ⟨depth, error⟩
          | none => NodeError.malformed depth

end Node

namespace Document

/-- The value of a document; without a root it is null. -/
def value (fuel : Nat) (document : Document) : Except Error Datum :=
  match document.root with
  | none => .ok .null
  | some root =>
    let hops := document.anchors.length + 3
    ((root.expand document.anchors hops).value (fuel * (hops + 1)) 0).mapError (·.error)

end Document

/-- The value of tokens that make at most one document. -/
def valueOf (tokens : List Token) : Except Error Datum := do
  let document ← Document.ofTokens tokens
  document.value (tokens.length + 2)

/-- Reads a text that holds at most one document. Texts hold characters only: half of a surrogate pair
is refused, after all other errors. -/
def read (text : String) : Except Error Datum := do
  -- With anything in the place of the halves, all other errors are found.
  let _ ← valueOf (scan (some '\ufffd') text)
  valueOf (scan none text)

end Fieldwise.Yaml
