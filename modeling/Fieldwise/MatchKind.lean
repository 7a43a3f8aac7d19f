import Fieldwise.Naming

/-! # Kinds of matches and operations

How one field is written into another depends only on which of the two is optional. The serialized
names of both vocabularies are lower-snake. -/

namespace Fieldwise

/-- How a source field is written into a target field. -/
inductive MatchKind where
  | plainToPlain
  | plainToOptional
  | optionalToPlain
  | optionalToOptional
  deriving DecidableEq, Repr

/-- What a generated function does: change a target, or build one. -/
inductive OperationKind where
  | move
  | convert
  deriving DecidableEq, Repr

/-- Why a text is no kind of some vocabulary. -/
inductive KindError where
  | notLowerSnake (subject value : String)
  | unknown (value vocabulary : String)
  deriving DecidableEq, Repr

def KindError.message : KindError → String
  | notLowerSnake subject value =>
    subject ++ " must be lower_snake (got: " ++ Text.quoted value ++ ")"
  | unknown value vocabulary => Text.quoted value ++ " is not a valid " ++ vocabulary

def requireLowerSnake (subject value : String) : Except KindError Unit :=
  if Naming.isLowerSnake value then .ok () else .error (.notLowerSnake subject value)

namespace MatchKind

/-- All kinds in the order of the matching table. -/
def all : List MatchKind :=
  [plainToPlain, plainToOptional, optionalToPlain, optionalToOptional]

def value : MatchKind → String
  | plainToPlain => "plain_to_plain"
  | plainToOptional => "plain_to_optional"
  | optionalToPlain => "optional_to_plain"
  | optionalToOptional => "optional_to_optional"

/-- The matching table. -/
def ofOptional (source target : Bool) : MatchKind :=
  match source, target with
  | false, false => plainToPlain
  | false, true => plainToOptional
  | true, false => optionalToPlain
  | true, true => optionalToOptional

/-- Only a present value of an optional source is written. -/
def requiresPresence : MatchKind → Bool
  | optionalToPlain | optionalToOptional => true
  | plainToPlain | plainToOptional => false

/-- The written value becomes the present value of an optional target. -/
def wraps : MatchKind → Bool
  | plainToOptional | optionalToOptional => true
  | plainToPlain | optionalToPlain => false

def ofValue? (text : String) : Option MatchKind :=
  all.find? (·.value == text)

def read (text : String) : Except KindError MatchKind := do
  requireLowerSnake "match_kind" text
  match ofValue? text with
  | some kind => return kind
  | none => throw (.unknown text "MatchKind")

end MatchKind

namespace OperationKind

/-- All kinds, a move before a conversion. -/
def all : List OperationKind :=
  [move, convert]

def value : OperationKind → String
  | move => "move"
  | convert => "convert"

def ofValue? (text : String) : Option OperationKind :=
  all.find? (·.value == text)

def ofValue (text : String) : Except KindError OperationKind :=
  match ofValue? text with
  | some kind => .ok kind
  | none => .error (.unknown text "OperationKind")

def read (text : String) : Except KindError OperationKind := do
  requireLowerSnake "operation_kind" text
  ofValue text

end OperationKind

/-- A vocabulary: a named list of members with serialized values. -/
structure Vocabulary where
  name : String
  members : List (String × String)
  deriving DecidableEq, Repr

namespace Vocabulary

/-- The members that introduce a value; a member that repeats one is only another name for it. -/
def distinctMembers (seen : List String) : List (String × String) → List (String × String)
  | [] => []
  | (name, value) :: rest =>
    if value ∈ seen then distinctMembers seen rest
    else (name, value) :: distinctMembers (value :: seen) rest

structure BadMember where
  vocabulary : String
  member : String
  value : String
  deriving DecidableEq, Repr

def BadMember.message (bad : BadMember) : String :=
  bad.vocabulary ++ "." ++ bad.member ++ " has non-lower_snake value: " ++ Text.quoted bad.value

/-- The first member of some vocabularies whose value is not lower-snake. -/
def firstBad? (vocabularies : List Vocabulary) : Option BadMember :=
  vocabularies.findSome? fun vocabulary =>
    ((distinctMembers [] vocabulary.members).find? fun member =>
      !Naming.isLowerSnake member.2).map fun member => ⟨vocabulary.name, member.1, member.2⟩

end Vocabulary

end Fieldwise
