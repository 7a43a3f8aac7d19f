import Fieldwise.Proofs.Rendering.Spelling
import Fieldwise.Rendering

/-! # Function names are words

A function name consists of the configured words and of lower-snake forms. Whatever a name looks
like, its lower-snake form holds letters, digits and underscores only. -/

namespace Fieldwise

open Rendered

theorem Rendered.isNameChar_of_isIdentifierPart {char : Char} (part : Text.isIdentifierPart char) :
    isNameChar char := by
  rw [isNameChar, part, Bool.or_true]

/-- The names that a schema or a field may have are words. -/
theorem Rendered.isWord_of_isFieldName {text : String} (accepted : Text.isFieldName text) :
    IsWord text := by
  rw [Text.isFieldName, Text.isIdentifier, Bool.and_eq_true] at accepted
  obtain ⟨identifier, -⟩ := accepted
  rw [IsWord]
  split at identifier
  · cases identifier
  · rename_i first rest same
    rw [Bool.and_eq_true, List.all_eq_true] at identifier
    obtain ⟨start, parts⟩ := identifier
    have firstName : isNameChar first := by rw [isNameChar, start, Bool.true_or]
    rw [same]
    exact ⟨List.cons_ne_nil _ _, List.forall_mem_cons.2
      ⟨firstName, fun char member => isNameChar_of_isIdentifierPart (parts char member)⟩⟩

namespace Naming

/-- Joining leaves the characters that a name keeps, and underscores. -/
theorem kept_of_mem_joined (inGap : Bool) (chars : List Char) :
    ∀ char ∈ joined inGap chars, isKept char ∨ char = '_' := by
  fun_induction joined inGap chars with
  | case1 => exact List.forall_mem_nil _
  | case2 inGap char rest kept ih => exact List.forall_mem_cons.2 ⟨.inl kept, ih⟩
  | case3 char rest dropped ih => exact ih
  | case4 inGap char rest dropped first ih => exact List.forall_mem_cons.2 ⟨.inr rfl, ih⟩

theorem mem_of_mem_trimmed {char : Char} {chars : List Char} (member : char ∈ trimmed chars) :
    char ∈ chars := by
  rw [trimmed, List.mem_reverse] at member
  have inside := (List.dropWhile_suffix _).subset member
  exact (List.dropWhile_suffix _).subset (List.mem_reverse.1 inside)

theorem toNat_lt_of_isKept {char : Char} (kept : isKept char ∨ char = '_') : char.toNat < 128 := by
  rcases kept with kept | rfl
  · simp only [isKept, isWordChar, isLower, isDigit, isUpper, Bool.or_eq_true, Bool.and_eq_true,
      decide_eq_true_eq, Char.le_def, UInt32.le_iff_toNat_le] at kept
    have lower : 'z'.val.toNat = 122 := rfl
    have upper : 'Z'.val.toNat = 90 := rfl
    have digit : '9'.val.toNat = 57 := rfl
    change char.val.toNat < 128
    omega
  · decide

/-- A kept character stays one of an identifier when it is lowered. -/
theorem isIdentifierPart_toLower {char : Char} (kept : isKept char ∨ char = '_') :
    Text.isIdentifierPart char.toLower := by
  have ascii : ∀ number < 128, isKept (Char.ofNat number) ∨ Char.ofNat number = '_' →
      Text.isIdentifierPart (Char.ofNat number).toLower := by decide
  have part := ascii char.toNat (toNat_lt_of_isKept kept)
  rw [Char.ofNat_toNat] at part
  exact part kept

theorem isNameChar_of_mem_lowerSnake (name : String) :
    ∀ char ∈ (lowerSnake name).toList, isNameChar char := by
  rw [lowerSnake, String.toList_ofList]
  intro char member
  obtain ⟨kept, inside, rfl⟩ := List.mem_map.1 member
  exact isNameChar_of_isIdentifierPart
    (isIdentifierPart_toLower (kept_of_mem_joined _ _ kept (mem_of_mem_trimmed inside)))

end Naming

/-- The configured parts of function names consist of identifier characters. -/
structure Settings.WellNamed (settings : Settings) : Prop where
  movePrefix : ∀ char ∈ settings.movePrefix.toList, Text.isIdentifierPart char
  convertInfix : ∀ char ∈ settings.convertInfix.toList, Text.isIdentifierPart char

theorem Operation.isWord_functionName {settings : Settings} (wellNamed : settings.WellNamed)
    (operation : Operation) : IsWord (operation.functionName settings) := by
  have underscore : ∀ char ∈ "_".toList, isNameChar char := List.all_eq_true.1 (by decide)
  have into : ∀ char ∈ "_into_".toList, isNameChar char := List.all_eq_true.1 (by decide)
  have source := Naming.isNameChar_of_mem_lowerSnake operation.sourceSchema
  have target := Naming.isNameChar_of_mem_lowerSnake operation.targetSchema
  rw [IsWord, functionName]
  cases operation.kind with
  | move =>
    have first := fun char member => isNameChar_of_isIdentifierPart (wellNamed.movePrefix char member)
    simp only [String.toList_append]
    refine ⟨by simp, ?_⟩
    simp only [List.forall_mem_append]
    exact ⟨⟨⟨⟨first, underscore⟩, source⟩, into⟩, target⟩
  | convert =>
    have middle := fun char member =>
      isNameChar_of_isIdentifierPart (wellNamed.convertInfix char member)
    simp only [String.toList_append]
    refine ⟨by simp, ?_⟩
    simp only [List.forall_mem_append]
    exact ⟨⟨⟨⟨target, underscore⟩, middle⟩, underscore⟩, source⟩

theorem Operation.underscore_mem_functionName (settings : Settings) (operation : Operation) :
    '_' ∈ (operation.functionName settings).toList := by
  rw [functionName]
  cases operation.kind <;> simp [String.toList_append]

end Fieldwise
