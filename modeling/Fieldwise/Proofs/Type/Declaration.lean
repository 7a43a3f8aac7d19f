import Fieldwise.Extraction
import Fieldwise.Proofs.Schema.Manifest
import Fieldwise.Proofs.Type.Derivation

/-! # Annotations and their texts

A type can be taken from an annotation or read from the text of the annotation. Both ways agree on
the annotations that say nothing but types (`declaredType_eq_read`): each is printed as a text that
spells the alternatives that it declares (`IsPureType.readsAs`). Only a whole number that is too
long to be written stops both, with the same error. -/

namespace Fieldwise.Source.Expr

open TypeExpr (alternativesMeaning)

/-! ## Annotations that are types -/

/-- A name of ASCII letters, digits and underscores that does not begin with a digit. -/
def isSegment (text : String) : Bool :=
  match text.toList with
  | [] => false
  | first :: rest => Token.isNameStart first && rest.all Token.isNamePart

/-- Names joined by dots. -/
inductive IsChain : Expr → Prop
  | name {text : String} (segment : isSegment text) : IsChain (.name text)
  | member {value : Expr} {label : String} (chain : IsChain value) (segment : isSegment label) :
      IsChain (.member value label)

/-- The expressions that mean the same as a value and as a type. -/
inductive IsPlain : Expr → Prop
  | chain {expr : Expr} (chain : IsChain expr) : IsPlain expr
  | none : IsPlain (.constant .none)
  | ellipsis : IsPlain (.constant .ellipsis)
  | whole (value : Nat) : IsPlain (.constant (.whole value))

/-- The index that holds some arguments: one stands by itself, several form a tuple. -/
def indexOf : List Expr → Expr
  | [single] => single
  | items => .tuple items

def isUnion : Expr → Bool
  | .binary .bitOr _ _ => true
  | _ => false

/-- The annotations that say nothing but types: chains of names, the absent value, three points and
whole numbers, subscripts of chains, and alternatives nested to the left. The values of a `Literal`
and the metadata of an `Annotated` are plain. -/
inductive IsPureType : Expr → Prop
  | plain {expr : Expr} (plain : IsPlain expr) : IsPureType expr
  | values {base : Expr} {items : List Expr} (chain : IsChain base)
      (head : base.head? = some valueHead) (some_item : items ≠ [])
      (values : ∀ item ∈ items, IsPlain item) : IsPureType (.subscript base (indexOf items))
  | described {base first : Expr} {rest : List Expr} (chain : IsChain base)
      (head : base.head? = some metadataHead) (described : IsPureType first)
      (metadata : ∀ item ∈ rest, IsPlain item) :
      IsPureType (.subscript base (indexOf (first :: rest)))
  | applied {base : Expr} {items : List Expr} (chain : IsChain base)
      (noValues : base.head? ≠ some valueHead) (noMetadata : base.head? ≠ some metadataHead)
      (some_item : items ≠ []) (arguments : ∀ item ∈ items, IsPureType item) :
      IsPureType (.subscript base (indexOf items))
  | alternatives {left right : Expr} (first : IsPureType left) (last : IsPureType right)
      (single : isUnion right = false) : IsPureType (.binary .bitOr left right)

mutual

/-- No whole number in an annotation is too long to be written. -/
def isShort : Expr → Bool
  | .constant (.whole value) => decide (value < powerOfTen mostDigits)
  | .subscript _ index => isShort index
  | .tuple items => allShort items
  | .binary _ left right => isShort left && isShort right
  | _ => true

def allShort : List Expr → Bool
  | [] => true
  | first :: rest => isShort first && allShort rest

end

/-- A result, or an error if some number is too long. -/
def guarded {ε α : Type} (error : ε) (short : Bool) (value : α) : Except ε α :=
  if short then .ok value else .error error

section

variable {ε α β : Type} {error : ε}

theorem guarded_bind (first second : Bool) (value : α) (next : α → β) :
    (guarded error first value >>= fun found => guarded error second (next found)) =
      guarded error (first && second) (next value) := by
  cases first <;> rfl

theorem guarded_map (short : Bool) (value : α) (next : α → β) :
    (guarded error short value >>= fun found => pure (next found)) =
      guarded error short (next value) := by
  cases short <;> rfl

theorem eq_guarded_of_singleton {result : Except ε α} {short : Bool} {value : α}
    (same : (result >>= fun found => pure [found]) = guarded error short [value]) :
    result = guarded error short value := by
  cases short with
  | false =>
    cases result with
    | error _ =>
      cases same
      rfl
    | ok _ => cases same
  | true =>
    cases result with
    | error _ => cases same
    | ok _ =>
      cases same
      rfl

end

/-! ## Plain expressions -/

theorem exists_of_isSegment {text : String} (segment : isSegment text) : ∃ first rest,
    text.toList = first :: rest ∧ Token.isNameStart first ∧
      ∀ char ∈ rest, Token.isNamePart char := by
  rw [isSegment] at segment
  split at segment
  · cases segment
  · rename_i first rest same
    rw [Bool.and_eq_true, List.all_eq_true] at segment
    exact ⟨first, rest, same, segment⟩

theorem dottedName_append {name : List Char} (dotted : Token.DottedName name) {label : String}
    (segment : isSegment label) : Token.DottedName (name ++ '.' :: label.toList) := by
  obtain ⟨first, rest, same, start, parts⟩ := exists_of_isSegment segment
  rw [same]
  exact dotted.append (.segment start parts)

/-- A chain is a dotted name and is printed as it. -/
theorem IsChain.name_of_dotted {expr : Expr} (chain : IsChain expr) :
    ∃ text, expr.dotted? = some text ∧ Token.DottedName text.toList ∧
      ∀ demand, expr.print false demand = .ok text := by
  induction chain with
  | @name text segment =>
    obtain ⟨first, rest, same, start, parts⟩ := exists_of_isSegment segment
    exact ⟨text, rfl, same ▸ .segment start parts, fun _ => by rw [print]⟩
  | @member value label chain segment ih =>
    obtain ⟨base, found, dotted, printed⟩ := ih
    refine ⟨base ++ "." ++ label, ?_, ?_, ?_⟩
    · rw [dotted?, found]
      rfl
    · simpa using dottedName_append dotted segment
    · intro demand
      cases chain with
      | name _ =>
        rw [print, printed]
        · rfl
        · nofun
        · nofun
      | member _ _ =>
        rw [print, printed]
        · rfl
        · nofun
        · nofun

theorem word_toString (value : Nat) : Token.Word (toString value).toList := by
  rw [Nat.toString_eq_repr, Nat.toList_repr]
  refine .literal (.number (.whole Nat.toDigits_ne_nil fun char member => ?_))
  have digit := Nat.isDigit_of_mem_toDigits (by decide) (by decide) member
  simp only [Char.isDigit, Bool.and_eq_true, decide_eq_true_eq, ge_iff_le,
    UInt32.le_iff_toNat_le] at digit
  have ascii : char.toNat < 128 := Nat.lt_of_le_of_lt digit.2 (by decide)
  have within : '0' ≤ char ∧ char ≤ '9' := by
    simpa only [Char.le_def, UInt32.le_iff_toNat_le] using digit
  rw [Text.isDigit, Text.digitValue?, if_pos ascii, if_pos within]
  rfl

/-- A plain expression is printed as one word, and as a type it is this word. -/
theorem IsPlain.word {expr : Expr} (plain : IsPlain expr) : ∃ text : String,
    Token.Word text.toList ∧
      (∀ demand, expr.print false demand = guarded .longNumber expr.isShort text) ∧
      ∀ marker, memberTypes marker expr =
        guarded (.unprintable .longNumber) expr.isShort [.bare text] := by
  cases plain with
  | chain chain =>
    obtain ⟨text, found, dotted, printed⟩ := chain.name_of_dotted
    cases chain with
    | name _ =>
      cases found
      exact ⟨_, .name dotted, printed, fun marker => by rw [memberTypes]; rfl⟩
    | member chain _ =>
      obtain ⟨base, foundBase, -, -⟩ := chain.name_of_dotted
      rw [dotted?, foundBase] at found
      cases found
      exact ⟨_, .name dotted, printed, fun marker => by rw [memberTypes, foundBase]; rfl⟩
  | none =>
    have word : Token.Word "None".toList :=
      .name (.segment (by decide) (List.all_eq_true.1 (by decide)))
    exact ⟨"None", word, fun demand => by rw [print]; rfl, fun marker => by rw [memberTypes]; rfl⟩
  | ellipsis =>
    exact ⟨"...", .literal .points, fun demand => by rw [print]; rfl,
      fun marker => by rw [memberTypes]; rfl⟩
  | whole value =>
    have shown : (Constant.whole value).show = guarded .longNumber
        (decide (value < powerOfTen mostDigits)) (toString value) := by
      simp [Constant.show, wholeText, guarded]
    refine ⟨toString value, word_toString value, fun demand => ?_, fun marker => ?_⟩
    · rw [print, isShort]
      exact shown
    · rw [memberTypes, constantType, shown, isShort]
      · cases decide (value < powerOfTen mostDigits) <;> rfl
      · nofun
      · nofun

/-! ## Subscripts -/

variable {marker : String}

/-- The opaque name of a plain expression is its type. -/
theorem opaqueTypes_eq_declaredTypes {items : List Expr} (plain : ∀ item ∈ items, IsPlain item) :
    opaqueTypes items = declaredTypes marker items := by
  induction items with
  | nil => rw [opaqueTypes, declaredTypes]
  | cons first rest ih =>
    obtain ⟨plainFirst, plainRest⟩ := List.forall_mem_cons.1 plain
    obtain ⟨text, word, printed, typed⟩ := plainFirst.word
    rw [opaqueTypes, declaredTypes, opaqueType, Expr.text, printed, typed, ih plainRest]
    cases first.isShort with
    | false => rfl
    | true =>
      simp only [guarded, if_true, Token.strip_word word]
      rfl

def argumentTypes (marker outer : String) (items : List Expr) :
    Except DeclaredError (List TypeExpr) :=
  if TypeExpr.lastSegment outer = valueHead then opaqueTypes items
  else if TypeExpr.lastSegment outer = metadataHead then describedTypes marker items
  else declaredTypes marker items

def arguments : Expr → List Expr
  | tuple items => items
  | index => [index]

theorem arguments_eq_singleton {index : Expr} (noTuple : ∀ items, index ≠ .tuple items) :
    index.arguments = [index] := by
  rw [arguments]
  exact noTuple

theorem arguments_indexOf {items : List Expr}
    (noTuple : ∀ item ∈ items, ∀ inner, item ≠ .tuple inner) :
    (indexOf items).arguments = items := by
  match items with
  | [] => rfl
  | [single] => exact arguments_eq_singleton (noTuple single (List.mem_singleton_self single))
  | first :: second :: rest => rfl

/-- A single argument is taken apart like a tuple of one. -/
theorem memberTypes_subscript {base : Expr} {outer : String} (found : base.dotted? = some outer)
    (index : Expr) : memberTypes marker (.subscript base index) =
      (argumentTypes marker outer index.arguments).map fun arguments => [.mk outer arguments] := by
  by_cases isTuple : ∃ items, index = .tuple items
  · obtain ⟨items, rfl⟩ := isTuple
    rw [memberTypes, found, argumentTypes, arguments]
    dsimp only
    split
    · cases opaqueTypes items <;> rfl
    · split
      · cases describedTypes marker items <;> rfl
      · cases declaredTypes marker items <;> rfl
  · have noTuple : ∀ items, index ≠ .tuple items := fun items same => isTuple ⟨items, same⟩
    rw [memberTypes, found, argumentTypes, arguments_eq_singleton noTuple]
    · dsimp only
      split
      · rw [opaqueTypes, opaqueTypes]
        cases opaqueType index <;> rfl
      · rw [describedTypes, declaredTypes, opaqueTypes, declaredTypes, ite_self]
        cases memberTypes marker index with
        | error _ => rfl
        | ok types =>
          simp only [bind, Except.bind]
          cases alternatives marker types <;> rfl
    · exact noTuple

/-- A subscript is printed with its arguments between commas. -/
theorem print_subscript {base : Expr} {outer : String}
    (printedBase : base.print false .atom = .ok outer) {items : List Expr} (some_item : items ≠ [])
    (noTuple : ∀ item ∈ items, ∀ inner, item ≠ .tuple inner) {short : Bool} {texts : List String}
    (printed : printAll false .test items = guarded .longNumber short texts)
    (sameLength : texts.length = items.length) (demand : Binding) :
    print false demand (.subscript base (indexOf items)) =
      guarded .longNumber short (outer ++ "[" ++ ", ".intercalate texts ++ "]") := by
  match items, texts with
  | [], _ => exact absurd rfl some_item
  | [single], [text] =>
    have noTuple := noTuple single (List.mem_singleton_self single)
    rw [printAll, printAll] at printed
    have printedSingle := eq_guarded_of_singleton printed
    rw [indexOf, print, printedBase, printedSingle]
    · cases short with
      | false => rfl
      | true => simp [guarded, bind, Except.bind, pure, Except.pure, String.intercalate_singleton]
    · exact noTuple
  | first :: second :: rest, text :: next :: others =>
    rw [indexOf, print, printedBase, printed]
    · cases short <;> rfl
    · nofun

/-! ## Annotations -/

theorem IsPureType.not_tuple {expr : Expr} (pureType : IsPureType expr)
    (inner : List Expr) : expr ≠ .tuple inner := by
  rintro rfl
  cases pureType with
  | plain plain =>
    cases plain with
    | chain chain => cases chain

theorem isShort_indexOf {items : List Expr} (some_item : items ≠ []) :
    isShort (indexOf items) = allShort items := by
  match items with
  | [] => exact absurd rfl some_item
  | [single] => rw [indexOf, allShort, allShort, Bool.and_true]
  | first :: second :: rest =>
    rw [indexOf, isShort]
    nofun

/-- An expression is printed as a text that spells alternatives, and as a type it is these
alternatives; unless it is a union it is a single one. A number that is too long spoils both. -/
structure ReadsAs (marker : String) (expr : Expr) (text : String) (types : List TypeExpr) :
    Prop where
  printed : ∀ demand, demand ≤ Binding.bitOr ∨ expr.isUnion = false →
    expr.print false demand = guarded .longNumber expr.isShort text
  typed : memberTypes marker expr = guarded (.unprintable .longNumber) expr.isShort types
  spelled : ∃ tokens, Token.Spells text.toList tokens ∧
    TypeExpr.DerivesMembers marker tokens types
  single : expr.isUnion = false → ∃ type, types = [type]

theorem IsPlain.readsAs {expr : Expr} (plain : IsPlain expr) :
    ∃ text types, ReadsAs marker expr text types := by
  obtain ⟨text, word, printed, typed⟩ := plain.word
  have derived : TypeExpr.DerivesMembers marker [.word text] [.bare text] := .last (.bare text)
  exact ⟨text, [.bare text], fun demand _ => printed demand, typed marker,
    ⟨_, .word word, derived⟩, fun _ => ⟨_, rfl⟩⟩

theorem alternatives_eq (visible : Text.isBlankText marker = false) (types : List TypeExpr) :
    alternatives marker types = .ok (alternativesMeaning marker types) := by
  rw [alternatives, TypeExpr.ofAlternatives_eq visible]

theorem declaredTypes_cons (first : Expr) (rest : List Expr) :
    declaredTypes marker (first :: rest) =
      (memberTypes marker first >>= alternatives marker) >>= fun type =>
        declaredTypes marker rest >>= fun others => pure (type :: others) := by
  rw [declaredTypes, bind_assoc]

/-- Arguments that are each printed and read as types are so together, with commas between them. -/
theorem exists_arguments (visible : Text.isBlankText marker = false) {items : List Expr}
    (some_item : items ≠ [])
    (each : ∀ item ∈ items, ∃ text types, ReadsAs marker item text types) :
    ∃ texts types tokens, printAll false .test items =
        guarded .longNumber (allShort items) texts ∧
      declaredTypes marker items = guarded (.unprintable .longNumber) (allShort items) types ∧
      texts.length = items.length ∧ Token.Spells (", ".intercalate texts).toList tokens ∧
      TypeExpr.DerivesArguments marker tokens types := by
  induction items with
  | nil => exact absurd rfl some_item
  | cons first rest ih =>
    obtain ⟨⟨text, types, reads⟩, eachRest⟩ := List.forall_mem_cons.1 each
    obtain ⟨tokens, spells, members⟩ := reads.spelled
    have printed := reads.printed .test (.inl (by decide))
    have derived : TypeExpr.DerivesUnion marker tokens (alternativesMeaning marker types) :=
      .intro members (TypeExpr.ofAlternatives_eq visible types)
    have typed : (memberTypes marker first >>= alternatives marker) =
        guarded (.unprintable .longNumber) first.isShort (alternativesMeaning marker types) := by
      rw [reads.typed]
      cases first.isShort with
      | false => rfl
      | true => exact alternatives_eq visible types
    cases rest with
    | nil =>
      refine ⟨[text], [alternativesMeaning marker types], tokens, ?_, ?_, rfl, ?_, .last derived⟩
      · rw [printAll, printAll, printed, allShort, allShort, Bool.and_true]
        exact guarded_map _ _ _
      · rw [declaredTypes_cons, typed, declaredTypes, allShort, allShort, Bool.and_true]
        exact guarded_map _ _ _
      · rw [String.intercalate_singleton]
        exact spells
    | cons next others =>
      obtain ⟨texts, typesRest, tokensRest, printedRest, typedRest, sameLength, spellsRest,
        derivedRest⟩ := ih (List.cons_ne_nil _ _) eachRest
      refine ⟨text :: texts, alternativesMeaning marker types :: typesRest,
        tokens ++ .mark .comma :: tokensRest, ?_, ?_, ?_, ?_, .more derived derivedRest⟩
      · rw [printAll, printed, printedRest, allShort]
        simp only [guarded_map]
        exact guarded_bind _ _ _ _
      · rw [declaredTypes_cons, typed, typedRest, allShort]
        simp only [guarded_map]
        exact guarded_bind _ _ _ _
      · exact congrArg (· + 1) sameLength
      · have some_text : 0 < texts.length := by
          rw [sameLength]
          exact Nat.succ_pos _
        obtain ⟨second, more, rfl⟩ := List.exists_cons_of_length_pos some_text
        have separated := spells.separated (List.forall_mem_nil _) .comma spellsRest
        simpa [String.toList_intercalate, List.intercalate_cons_cons, Mark.char] using separated

/-- A subscript reads as its head with its arguments, if all of these count as types. -/
theorem readsAs_subscript (visible : Text.isBlankText marker = false) {base : Expr} {outer : String}
    (found : base.dotted? = some outer) (dotted : Token.DottedName outer.toList)
    (printedBase : base.print false .atom = .ok outer) {items : List Expr}
    (some_item : items ≠ []) (noTuple : ∀ item ∈ items, ∀ inner, item ≠ .tuple inner)
    (each : ∀ item ∈ items, ∃ text types, ReadsAs marker item text types)
    (asTypes : argumentTypes marker outer items = declaredTypes marker items) :
    ∃ text types, ReadsAs marker (.subscript base (indexOf items)) text types := by
  obtain ⟨texts, types, tokens, printed, typed, sameLength, spells, derived⟩ :=
    exists_arguments visible some_item each
  have short : isShort (.subscript base (indexOf items)) = allShort items := by
    rw [isShort, isShort_indexOf some_item]
  refine ⟨outer ++ "[" ++ ", ".intercalate texts ++ "]", [.mk outer types], ?_, ?_, ?_, ?_⟩
  · intro demand _
    rw [short]
    exact print_subscript printedBase some_item noTuple printed sameLength demand
  · rw [memberTypes_subscript found, arguments_indexOf noTuple, asTypes, typed, short]
    cases allShort items <;> rfl
  · have applied := Token.Spells.applied (.name dotted) spells (List.forall_mem_nil _)
    refine ⟨_, ?_, .last (.applied outer derived)⟩
    simpa [Mark.char] using applied
  · exact fun _ => ⟨_, rfl⟩

/-- Alternatives read as all their members in order. -/
theorem ReadsAs.alternatives {left right : Expr} {leftText rightText : String}
    {leftTypes rightTypes : List TypeExpr} (first : ReadsAs marker left leftText leftTypes)
    (last : ReadsAs marker right rightText rightTypes) (single : right.isUnion = false) :
    ReadsAs marker (.binary .bitOr left right) (leftText ++ " | " ++ rightText)
      (leftTypes ++ rightTypes) where
  printed demand loose := by
    have low : demand ≤ Binding.bitOr := by
      rcases loose with low | apart
      · exact low
      · cases apart
    have bare (text : String) : parenthesized (Binding.bitOr < demand) text = text := by
      rw [parenthesized, decide_eq_false (Nat.not_lt.2 low)]
      rfl
    have joined : leftText ++ " " ++ "|" ++ " " ++ rightText = leftText ++ " | " ++ rightText :=
      String.toList_injective (by simp)
    have printedLeft := first.printed .bitOr (.inl (Nat.le_refl _))
    have printedRight := last.printed Binding.bitOr.next (.inr single)
    rw [print, isShort, ← joined]
    change (print false .bitOr left >>= fun before => print false Binding.bitOr.next right >>=
      fun after => pure (parenthesized (Binding.bitOr < demand)
        (before ++ " " ++ "|" ++ " " ++ after))) = _
    simp only [printedLeft, printedRight, bare, guarded_map]
    exact guarded_bind _ _ _ fun text => text ++ " " ++ "|" ++ " " ++ rightText
  typed := by
    rw [memberTypes, first.typed, last.typed, isShort]
    simp only [guarded_map]
    exact guarded_bind _ _ _ _
  spelled := by
    obtain ⟨tokens, spells, members⟩ := first.spelled
    obtain ⟨tokens', spells', members'⟩ := last.spelled
    have space : ∀ char ∈ [' '], Text.isBlank char := List.forall_mem_singleton.2 (by decide)
    have separated := spells.separated space .bar spells'
    refine ⟨_, ?_, members.append members'⟩
    simpa [Mark.char] using separated
  single apart := by cases apart

/-- Every annotation is printed as a text that spells the types that it declares. -/
theorem IsPureType.readsAs (visible : Text.isBlankText marker = false) {expr : Expr}
    (pureType : IsPureType expr) : ∃ text types, ReadsAs marker expr text types := by
  induction pureType with
  | plain plain => exact plain.readsAs
  | @values base items chain head some_item values =>
    obtain ⟨outer, found, dotted, printed⟩ := chain.name_of_dotted
    have isHead : TypeExpr.lastSegment outer = valueHead := by
      simpa [head?, found] using head
    refine readsAs_subscript visible found dotted (printed _) some_item ?_ ?_ ?_
    · exact fun item member => (IsPureType.plain (values item member)).not_tuple
    · exact fun item member => (values item member).readsAs
    · rw [argumentTypes, if_pos isHead, opaqueTypes_eq_declaredTypes values]
  | @described base first rest chain head described metadata ih =>
    obtain ⟨outer, found, dotted, printed⟩ := chain.name_of_dotted
    have isHead : TypeExpr.lastSegment outer = metadataHead := by
      simpa [head?, found] using head
    have noValues : TypeExpr.lastSegment outer ≠ valueHead := by
      rw [isHead]
      decide
    refine readsAs_subscript visible found dotted (printed _) (List.cons_ne_nil _ _) ?_ ?_ ?_
    · exact List.forall_mem_cons.2 ⟨described.not_tuple,
        fun item member => (IsPureType.plain (metadata item member)).not_tuple⟩
    · exact List.forall_mem_cons.2 ⟨ih, fun item member => (metadata item member).readsAs⟩
    · rw [argumentTypes, if_neg noValues, if_pos isHead, describedTypes, declaredTypes,
        opaqueTypes_eq_declaredTypes metadata]
  | @applied base items chain noValues noMetadata some_item arguments ih =>
    obtain ⟨outer, found, dotted, printed⟩ := chain.name_of_dotted
    have noValues : TypeExpr.lastSegment outer ≠ valueHead := by
      simpa [head?, found] using noValues
    have noMetadata : TypeExpr.lastSegment outer ≠ metadataHead := by
      simpa [head?, found] using noMetadata
    refine readsAs_subscript visible found dotted (printed _) some_item ?_ ih ?_
    · exact fun item member => (arguments item member).not_tuple
    · rw [argumentTypes, if_neg noValues, if_neg noMetadata]
  | alternatives _ _ single ihLeft ihRight =>
    obtain ⟨_, _, first⟩ := ihLeft
    obtain ⟨_, _, last⟩ := ihRight
    exact ⟨_, _, first.alternatives last single⟩

/-- The type of an annotation is what its text is read as, unless a number is too long. -/
theorem IsPureType.exists_read (visible : Text.isBlankText marker = false) {expr : Expr}
    (pureType : IsPureType expr) : ∃ text type,
      expr.text = guarded .longNumber expr.isShort text ∧
      expr.declaredType marker = guarded (.unprintable .longNumber) expr.isShort type ∧
      TypeExpr.read marker text = .ok type := by
  obtain ⟨text, types, reads⟩ := pureType.readsAs visible
  obtain ⟨tokens, spells, members⟩ := reads.spelled
  have meaning := TypeExpr.ofAlternatives_eq visible types
  refine ⟨text, alternativesMeaning marker types, ?_, ?_, ?_⟩
  · exact reads.printed .test (.inl (by decide))
  · rw [declaredType, reads.typed]
    cases expr.isShort with
    | false => rfl
    | true => exact alternatives_eq visible types
  · exact TypeExpr.read_of_derives spells.scan (.intro members meaning)

/-- An annotation that says nothing but types declares a canonical type. -/
theorem IsPureType.canonical (dotted : Token.DottedName marker.toList)
    (visible : Text.isBlankText marker = false) {expr : Expr} (pureType : IsPureType expr)
    {type : TypeExpr} (declared : expr.declaredType marker = .ok type) : type.Canonical := by
  obtain ⟨text, found, -, same, read⟩ := pureType.exists_read visible
  rw [same] at declared
  cases short : expr.isShort with
  | false =>
    rw [short] at declared
    cases declared
  | true =>
    rw [short] at declared
    cases declared
    exact TypeExpr.canonical_of_read dotted read

/-- A class declares a field of the type of its annotation. -/
theorem field?_of_declaredType {expr : Expr} {type : TypeExpr} {name : String}
    (declared : expr.declaredType marker = .ok type) (accepted : Text.isFieldName name)
    (isField : name ≠ RecordType.defaultAttribute) (kept : RecordType.isSkipped expr = false)
    (value : Option Expr) : RecordType.field? marker (.annotated (.name name) expr value) =
      .ok (some ⟨⟨name, type⟩, RecordType.givesDefault value⟩) := by
  have checked : RecordType.checkName "FieldDescriptor" "field" name = .ok () := by
    rw [RecordType.checkName, requireIdentifier_of_isFieldName _ accepted]
  simp [RecordType.field?, isField, kept, declared, checked, Except.mapError, bind, Except.bind,
    pure, Except.pure]

/-- An annotation that says nothing but types has a text, and the type that is taken from the
annotation is what the text is read as. So a class and a manifest declare the same field, and its
shape is the same under every marker. Only a whole number that is too long to be written leaves an
annotation without a text, and then it has no type either. -/
theorem declaredType_eq_read (visible : Text.isBlankText marker = false) {expr : Expr}
    (pureType : IsPureType expr) :
    (expr.isShort = true → ∃ text type, expr.text = .ok text ∧
      expr.declaredType marker = .ok type ∧ TypeExpr.read marker text = .ok type ∧
      ∀ name value, Text.isFieldName name → name ≠ RecordType.defaultAttribute →
        RecordType.isSkipped expr = false →
          RecordType.field? marker (.annotated (.name name) expr value) =
              .ok (some ⟨⟨name, type⟩, RecordType.givesDefault value⟩) ∧
            Field.ofDatum marker
              (.mapping [(.text "name", .text name), (.text "type", .text text)]) =
                .ok ⟨name, type⟩) ∧
    (expr.isShort = false → expr.text = .error .longNumber ∧
      expr.declaredType marker = .error (.unprintable .longNumber)) := by
  obtain ⟨text, type, printed, declared, found⟩ := pureType.exists_read visible
  constructor
  · intro short
    rw [short] at printed declared
    refine ⟨text, type, printed, declared, found, ?_⟩
    intro name value accepted isField kept
    exact ⟨field?_of_declaredType declared accepted isField kept value,
      Field.ofDatum_record accepted found⟩
  · intro long
    rw [long] at printed declared
    exact ⟨printed, declared⟩

/-- The annotation `dict[typing.Literal[a, None], Annotated[int | None, 3]] | None`. -/
def nestedType : Expr :=
  .binary .bitOr
    (.subscript (.name "dict") (.tuple [
      .subscript (.member (.name "typing") "Literal") (.tuple [.name "a", .constant .none]),
      .subscript (.name "Annotated") (.tuple [
        .binary .bitOr (.name "int") (.constant .none), .constant (.whole 3)])]))
    (.constant .none)

theorem nestedType_isPureType : IsPureType nestedType := by
  have dict : IsChain (.name "dict") := .name (by decide)
  have literal : IsChain (.member (.name "typing") "Literal") :=
    .member (.name (by decide)) (by decide)
  have annotated : IsChain (.name "Annotated") := .name (by decide)
  have int : IsChain (.name "int") := .name (by decide)
  have value : IsChain (.name "a") := .name (by decide)
  have values : IsPureType (.subscript (.member (.name "typing") "Literal")
      (indexOf [.name "a", .constant .none])) :=
    .values literal (by decide) (List.cons_ne_nil _ _)
      (List.forall_mem_cons.2 ⟨.chain value, List.forall_mem_singleton.2 .none⟩)
  have described : IsPureType (.subscript (.name "Annotated")
      (indexOf [.binary .bitOr (.name "int") (.constant .none), .constant (.whole 3)])) :=
    .described annotated (by decide)
      (.alternatives (.plain (.chain int)) (.plain .none) (by decide))
      (List.forall_mem_singleton.2 (.whole 3))
  exact .alternatives
    (.applied dict (by decide) (by decide) (List.cons_ne_nil _ _)
      (List.forall_mem_cons.2 ⟨values, List.forall_mem_singleton.2 described⟩))
    (.plain .none) (by decide)

def nestedText : String :=
  "dict[typing.Literal[a, None], Annotated[int | None, 3]] | None"

/-- What `nestedType` stands for under the marker `Maybe`. -/
def nestedMeaning : TypeExpr :=
  .mk "Maybe" [.mk "dict" [.mk "typing.Literal" [.bare "a", .bare "None"],
    .mk "Annotated" [.mk "Maybe" [.bare "int"], .bare "3"]]]

/-- A class and a manifest declare the same field of a nested type, and a number of more than 4300
digits is refused. -/
theorem declaredType_eq_read_nested : Text.isBlankText "Maybe" = false ∧
    IsPureType nestedType ∧ nestedType.isShort = true ∧ nestedType.text = .ok nestedText ∧
    nestedType.declaredType "Maybe" = .ok nestedMeaning ∧
    TypeExpr.read "Maybe" nestedText = .ok nestedMeaning ∧
    RecordType.field? "Maybe" (.annotated (.name "x") nestedType none) =
      .ok (some ⟨⟨"x", nestedMeaning⟩, false⟩) ∧
    Field.ofDatum "Maybe" (.mapping [(.text "name", .text "x"), (.text "type", .text nestedText)]) =
      .ok ⟨"x", nestedMeaning⟩ ∧
    (Expr.constant (.whole (powerOfTen mostDigits))).text = .error .longNumber := by
  have visible : Text.isBlankText "Maybe" = false := by decide
  have short : nestedType.isShort = true := by decide +kernel
  have accepted : Text.isFieldName "x" := by decide +kernel
  have long : (Expr.constant (.whole (powerOfTen mostDigits))).isShort = false := by
    simp [isShort]
  obtain ⟨text, type, printed, declared, found, declare⟩ :=
    (declaredType_eq_read visible nestedType_isPureType).1 short
  have isText : nestedType.text.toOption = some nestedText := by decide +kernel
  have isMeaning : (nestedType.declaredType "Maybe").toOption = some nestedMeaning := by
    decide +kernel
  rw [printed] at isText
  cases isText
  rw [declared] at isMeaning
  cases isMeaning
  obtain ⟨fromClass, fromManifest⟩ := declare "x" none accepted (by decide) (by decide)
  exact ⟨visible, nestedType_isPureType, short, printed, declared, found, fromClass, fromManifest,
    ((declaredType_eq_read visible (.plain (.whole _))).2 long).1⟩

end Fieldwise.Source.Expr
