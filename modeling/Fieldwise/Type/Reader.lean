import Fieldwise.Type.Basic
import Fieldwise.Type.Token

/-! # Reading types

The grammar of type texts: alternatives separated by bars, each a word that may be followed by
arguments in brackets. `X | None` and `None | X` mean the optional marker applied to `X`; all other
alternatives make a `Union`. Empty brackets mean no arguments. -/

namespace Fieldwise

/-- Why a text is no type. -/
inductive TypeExpr.ReadError where
  | noToken (text : String) (offset : Nat)
  | empty
  | unexpectedEnd
  | unexpected (mark : Mark)
  | noSeparator (found : Token)
  | trailing (text : String)
  | blankMarker
  deriving DecidableEq, Repr

namespace TypeExpr

/-- The rule that a name violates if nothing but blanks is left of it. -/
def blankNameMessage : String :=
  "type name must be non-empty"

def ReadError.message : ReadError → String
  | noToken text offset =>
    "invalid type expression " ++ Text.quoted text ++ " at offset " ++ toString offset
  | empty => "empty type expression"
  | unexpectedEnd => "unexpected end of type expression"
  | unexpected mark => "unexpected " ++ Text.quoted mark.char.toString ++ " in type expression"
  | noSeparator found => "expected ',' or ']' but found " ++ Text.quoted found.text
  | trailing text => "unexpected trailing input in type " ++ Text.quoted text
  | blankMarker => blankNameMessage

/-- What a set of alternatives means: a single one is itself, one beside the absent value is
optional, all others form a union. -/
def ofAlternatives (marker : String) : List TypeExpr → Except ReadError TypeExpr
  | [single] => .ok single
  | members =>
    let present := members.filter (· ≠ none)
    match members.length, present with
    | 2, [inner] =>
      match optionalOf? marker inner with
      | some type => .ok type
      | Option.none => .error .blankMarker
    | _, _ => .ok (mk "Union" members)

/-- A value read from the front of some tokens, with the tokens after it. -/
structure Parsed (α : Type) (tokens : List Token) where
  value : α
  rest : List Token
  shorter : rest.length < tokens.length

mutual

/-- Reads alternatives separated by bars. -/
def readUnion (marker : String) (tokens : List Token) :
    Except ReadError (Parsed TypeExpr tokens) :=
  match readAtom marker tokens with
  | .error error => .error error
  | .ok first =>
    match readAlternatives marker first.rest with
    | .error error => .error error
    | .ok ⟨(others, rest), kept⟩ =>
      match ofAlternatives marker (first.value :: others) with
      | .error error => .error error
      | .ok type => .ok ⟨type, rest, Nat.lt_of_le_of_lt kept first.shorter⟩
termination_by (tokens.length, 1)
decreasing_by
  · exact Prod.Lex.right _ (by decide)
  · exact Prod.Lex.left _ _ first.shorter

/-- Reads further alternatives, each after a bar. -/
def readAlternatives (marker : String) (tokens : List Token) :
    Except ReadError
      { found : List TypeExpr × List Token // found.2.length ≤ tokens.length } :=
  match tokens with
  | .mark .bar :: rest =>
    match readAtom marker rest with
    | .error error => .error error
    | .ok next =>
      match readAlternatives marker next.rest with
      | .error error => .error error
      | .ok ⟨(others, tail), kept⟩ =>
        .ok ⟨(next.value :: others, tail), by
          have := next.shorter
          simp only [List.length_cons] at *
          omega⟩
  | tokens => .ok ⟨([], tokens), Nat.le_refl _⟩
termination_by (tokens.length, 0)
decreasing_by
  · exact Prod.Lex.left _ _ (by simp)
  · exact Prod.Lex.left _ _ (by have := next.shorter; simp only [List.length_cons]; omega)

def readAtom (marker : String) (tokens : List Token) :
    Except ReadError (Parsed TypeExpr tokens) :=
  match tokens with
  | [] => .error .unexpectedEnd
  | .mark mark :: _ => .error (.unexpected mark)
  | .word name :: .mark .openBracket :: .mark .closeBracket :: rest =>
    .ok ⟨bare name, rest, by simp only [List.length_cons]; omega⟩
  | .word name :: .mark .openBracket :: rest =>
    match readArguments marker rest with
    | .error error => .error error
    | .ok found =>
      .ok ⟨mk name found.value, found.rest, by
        have := found.shorter
        simp only [List.length_cons]
        omega⟩
  | .word name :: rest => .ok ⟨bare name, rest, by simp⟩
termination_by (tokens.length, 0)
decreasing_by exact Prod.Lex.left _ _ (by simp only [List.length_cons]; omega)

/-- Reads arguments separated by commas, up to the closing bracket. -/
def readArguments (marker : String) (tokens : List Token) :
    Except ReadError (Parsed (List TypeExpr) tokens) :=
  match readUnion marker tokens with
  | .error error => .error error
  | .ok first =>
    match following : first.rest with
    | [] => .error .unexpectedEnd
    | .mark .closeBracket :: rest =>
      .ok ⟨[first.value], rest, by
        have := first.shorter
        simp only [following, List.length_cons] at this
        omega⟩
    | .mark .comma :: rest =>
      match readArguments marker rest with
      | .error error => .error error
      | .ok others =>
        .ok ⟨first.value :: others.value, others.rest, by
          have := first.shorter
          have := others.shorter
          simp only [following, List.length_cons] at *
          omega⟩
    | token :: _ => .error (.noSeparator token)
termination_by (tokens.length, 2)
decreasing_by
  · exact Prod.Lex.right _ (by decide)
  · refine Prod.Lex.left _ _ ?_
    have := first.shorter
    simp only [following, List.length_cons] at this
    omega

end

/-- Reads the text of a type. The marker is the name that optional alternatives are given. -/
def read (marker text : String) : Except ReadError TypeExpr :=
  match Token.scan text with
  | .error offset => .error (.noToken text offset)
  | .ok [] => .error .empty
  | .ok tokens =>
    match readUnion marker tokens with
    | .error error => .error error
    | .ok found => if found.rest.isEmpty then .ok found.value else .error (.trailing text)

end TypeExpr

end Fieldwise
