import Fieldwise.Yaml.Scan
import Fieldwise.Yaml.Tag

/-! # YAML nodes

The tree that tokens describe: scalars, sequences and mappings with their tags, and aliases for
nodes that have an anchor. An alias may stand inside the node that it names. A text holds at most
one document. -/

namespace Fieldwise.Yaml

inductive Node where
  | scalar (tag : Tag) (text : String)
  | sequence (tag : Tag) (items : List Node)
  | mapping (tag : Tag) (entries : List (Node × Node))
  | alias (name : String)
  deriving Inhabited

abbrev Anchors := List (String × Node)

/-- The document of a text: its root, if it has one, and the nodes that aliases stand for. -/
structure Document where
  root : Option Node
  anchors : Anchors

/-- What has been read: the tokens that are left, the anchors that were announced, and the nodes of
those that are complete. -/
structure Progress where
  tokens : List Token
  announced : List String := []
  anchors : Anchors := []

abbrev Handles := List (String × String)

namespace Node

/-- The token that comes next does not fit. -/
def misfit {α : Type} (progress : Progress) : Except Error α :=
  match progress.tokens with
  | .broken error :: _ => .error error
  | _ => .error .malformed

/-- The node that is written as nothing. -/
def empty : Node :=
  .scalar .null ""

def sees (tokens : List Token) (progress : Progress) : Bool :=
  match progress.tokens with
  | token :: _ => tokens.contains token
  | [] => false

def skip (progress : Progress) : Progress :=
  { progress with tokens := progress.tokens.drop 1 }

def expect (token : Token) (progress : Progress) : Except Error Progress :=
  if sees [token] progress then .ok (skip progress) else misfit progress

/-- The anchor and the tag before a node, in either order. -/
structure Properties where
  anchor : Option String := none
  tag : Option (Option String × String) := none

def takeAnchor (progress : Progress) : Option String × Progress :=
  match progress.tokens with
  | .anchor name :: _ => (some name, skip progress)
  | _ => (none, progress)

def takeTag (progress : Progress) : Option (Option String × String) × Progress :=
  match progress.tokens with
  | .tag handle suffix :: _ => (some (handle, suffix), skip progress)
  | _ => (none, progress)

def takeProperties (progress : Progress) : Properties × Progress :=
  let (before, progress) := takeAnchor progress
  let (tag, progress) := takeTag progress
  let (after, progress) :=
    if before.isNone ∧ tag.isSome then takeAnchor progress else (none, progress)
  (⟨before.or after, tag⟩, progress)

/-- The full name of a tag; `!` alone is none but lets a scalar be recognised by its form. -/
def tagName (handles : Handles) : Option (Option String × String) → Except Error (Option String)
  | none => .ok none
  | some (none, suffix) => .ok (some suffix)
  | some (some handle, suffix) =>
    match handles.lookup handle with
    | some start => .ok (some (start ++ suffix))
    | none => .error .malformed

def collectionTag (default : Tag) : Option String → Tag
  | none => default
  | some "!" => default
  | some name => .ofName name

/-- The tag of a scalar: named, recognised by its form, or that of a text. -/
def scalarTag (plain : Bool) (text : String) : Option String → Tag
  | none => if plain then .ofPlain text else .str
  | some "!" => .ofPlain text
  | some name => .ofName name

/-- Announces an anchor, which must be new. -/
def announce (anchor : Option String) (progress : Progress) : Except Error Progress :=
  match anchor with
  | none => .ok progress
  | some name =>
    if name ∈ progress.announced then .error .malformed
    else .ok { progress with announced := name :: progress.announced }

/-- Keeps the node of an anchor. -/
def keep (anchor : Option String) (node : Node) (progress : Progress) : Node × Progress :=
  match anchor with
  | none => (node, progress)
  | some name => (node, { progress with anchors := (name, node) :: progress.anchors })

/-- The kinds of places where a node may stand: in brackets, in a block, or as a value in a block,
where a sequence needs no indentation. -/
inductive Place where
  | flow
  | block
  | value
  deriving DecidableEq

/-- Reads a node that has properties but no content. -/
def readNothing (properties : Properties) (name : Option String) (progress : Progress) :
    Except Error (Node × Progress) := do
  if properties.anchor.isNone ∧ name.isNone then misfit progress
  else
    let progress ← announce properties.anchor progress
    let tag := match name with
      | none => .null
      | some name => scalarTag true "" (some name)
    return keep properties.anchor (.scalar tag "") progress

mutual

def read (handles : Handles) (place : Place) : Nat → Progress → Except Error (Node × Progress)
  | 0, _ => .error .malformed
  | fuel + 1, progress =>
    match progress.tokens with
    | .alias name :: _ =>
      if name ∈ progress.announced then .ok (.alias name, skip progress) else .error .malformed
    | _ => do
      let (properties, progress) := takeProperties progress
      let name ← tagName handles properties.tag
      let inBlock := place != .flow
      if place = .value && sees [.blockEntry] progress then
        let progress ← announce properties.anchor progress
        let (items, progress) ← readEntries handles true fuel progress
        return keep properties.anchor (.sequence (collectionTag .seq name) items) progress
      else
        match progress.tokens with
        | .scalar plain text :: _ =>
          let progress ← announce properties.anchor (skip progress)
          return keep properties.anchor (.scalar (scalarTag plain text name) text) progress
        | .flowSequence :: _ =>
          let progress ← announce properties.anchor (skip progress)
          let (items, progress) ← readFlowItems handles true fuel progress
          return keep properties.anchor (.sequence (collectionTag .seq name) items) progress
        | .flowMapping :: _ =>
          let progress ← announce properties.anchor (skip progress)
          let (entries, progress) ← readFlowEntries handles true fuel progress
          return keep properties.anchor (.mapping (collectionTag .map name) entries) progress
        | token :: _ =>
          if inBlock && token = .blockSequence then
            let progress ← announce properties.anchor (skip progress)
            let (items, progress) ← readEntries handles false fuel progress
            return keep properties.anchor (.sequence (collectionTag .seq name) items) progress
          else if inBlock && token = .blockMapping then
            let progress ← announce properties.anchor (skip progress)
            let (entries, progress) ← readBlockEntries handles fuel progress
            return keep properties.anchor (.mapping (collectionTag .map name) entries) progress
          else readNothing properties name progress
        | [] => readNothing properties name progress

/-- Reads a node, or nothing before one of some tokens. -/
def readBefore (handles : Handles) (place : Place) (ends : List Token) :
    Nat → Progress → Except Error (Node × Progress)
  | 0, _ => .error .malformed
  | fuel + 1, progress =>
    if sees ends progress then .ok (empty, progress) else read handles place fuel progress

/-- Reads the entries of a block sequence. Without indentation of its own it ends where no entry
follows. -/
def readEntries (handles : Handles) (bare : Bool) :
    Nat → Progress → Except Error (List Node × Progress)
  | 0, _ => .error .malformed
  | fuel + 1, progress =>
    if sees [.blockEntry] progress then do
      let ends := if bare then [.blockEntry, .key, .value, .blockEnd] else [.blockEntry, .blockEnd]
      let (item, progress) ← readBefore handles .block ends fuel (skip progress)
      let (items, progress) ← readEntries handles bare fuel progress
      return (item :: items, progress)
    else if bare then .ok ([], progress)
    else return ([], ← expect .blockEnd progress)

def readEntryValue (handles : Handles) (place : Place) (ends : List Token) :
    Nat → Progress → Except Error (Node × Progress)
  | 0, _ => .error .malformed
  | fuel + 1, progress =>
    if sees [.value] progress then readBefore handles place ends fuel (skip progress)
    else .ok (empty, progress)

def readBlockEntries (handles : Handles) :
    Nat → Progress → Except Error (List (Node × Node) × Progress)
  | 0, _ => .error .malformed
  | fuel + 1, progress =>
    if sees [.key] progress then do
      let ends := [.key, .value, .blockEnd]
      let (key, progress) ← readBefore handles .value ends fuel (skip progress)
      let (value, progress) ← readEntryValue handles .value ends fuel progress
      let (entries, progress) ← readBlockEntries handles fuel progress
      return ((key, value) :: entries, progress)
    else return ([], ← expect .blockEnd progress)

/-- Reads the items of a sequence in brackets. A key among them makes a mapping of one entry. -/
def readFlowItems (handles : Handles) (first : Bool) :
    Nat → Progress → Except Error (List Node × Progress)
  | 0, _ => .error .malformed
  | fuel + 1, progress =>
    if sees [.flowSequenceEnd] progress then .ok ([], skip progress)
    else do
      let progress ← if first then .ok progress else expect .flowEntry progress
      if sees [.flowSequenceEnd] progress then return ([], skip progress)
      else
        let (item, progress) ←
          if sees [.key] progress then do
            let (key, progress) ←
              readBefore handles .flow [.value, .flowEntry, .flowSequenceEnd] fuel (skip progress)
            let (value, progress) ←
              readEntryValue handles .flow [.flowEntry, .flowSequenceEnd] fuel progress
            pure (Node.mapping .map [(key, value)], progress)
          else read handles .flow fuel progress
        let (items, progress) ← readFlowItems handles false fuel progress
        return (item :: items, progress)

/-- Reads the entries of a mapping in brackets. A node alone is a key without a value. -/
def readFlowEntries (handles : Handles) (first : Bool) :
    Nat → Progress → Except Error (List (Node × Node) × Progress)
  | 0, _ => .error .malformed
  | fuel + 1, progress =>
    if sees [.flowMappingEnd] progress then .ok ([], skip progress)
    else do
      let progress ← if first then .ok progress else expect .flowEntry progress
      if sees [.flowMappingEnd] progress then return ([], skip progress)
      else
        let (entry, progress) ←
          if sees [.key] progress then do
            let (key, progress) ←
              readBefore handles .flow [.value, .flowEntry, .flowMappingEnd] fuel (skip progress)
            let (value, progress) ←
              readEntryValue handles .flow [.flowEntry, .flowMappingEnd] fuel progress
            pure ((key, value), progress)
          else do
            let (key, progress) ← read handles .flow fuel progress
            pure ((key, empty), progress)
        let (entries, progress) ← readFlowEntries handles false fuel progress
        return (entry :: entries, progress)

end

end Node

namespace Document

/-- The handles that need no directive. -/
def defaultHandles : Handles :=
  [("!", "!"), ("!!", Tag.space)]

/-- Reads directives: at most one version, which must be a first one, and handles for tags. -/
def readDirectives (versioned : Bool) (handles : Handles) :
    List Token → Except Error (Handles × List Token)
  | .version major :: rest =>
    if versioned ∨ major ≠ 1 then .error .malformed else readDirectives true handles rest
  | .tagHandle handle start :: rest =>
    if (handles.lookup handle).isSome then .error .malformed
    else readDirectives versioned ((handle, start) :: handles) rest
  | .otherDirective :: rest => readDirectives versioned handles rest
  | rest => .ok (handles ++ defaultHandles, rest)

/-- Whether a token belongs to the lines before a document. -/
def isLead : Token → Bool
  | .version _ | .tagHandle .. | .otherDirective | .documentStart => true
  | _ => false

/-- Whether a document that was opened by its mark has no content. -/
def isBare : List Token → Bool
  | [] => true
  | .documentEnd :: _ => true
  | token :: _ => isLead token

/-- Demands that nothing follows but marks of the end of the document. -/
def finish (node : Node) (progress : Progress) : Except Error Document :=
  match progress.tokens.dropWhile (· == .documentEnd) with
  | [] => .ok ⟨some node, progress.anchors⟩
  | tokens => Node.misfit { progress with tokens }

/-- The document that tokens describe. -/
def ofTokens (tokens : List Token) : Except Error Document := do
  match tokens with
  | [] => return ⟨none, []⟩
  | first :: _ =>
    let fuel := 4 * tokens.length + 4
    if isLead first then
      let (handles, tokens) ← readDirectives false [] tokens
      let progress ← Node.expect .documentStart ⟨tokens, [], []⟩
      if isBare progress.tokens then finish Node.empty progress
      else
        let (node, progress) ← Node.read handles .block fuel progress
        finish node progress
    else
      let (node, progress) ← Node.read defaultHandles .block fuel ⟨tokens, [], []⟩
      finish node progress

end Document

end Fieldwise.Yaml
