import Fieldwise.Proofs.Loading.YamlScalars
import Fieldwise.Proofs.Loading.YamlValues

/-! # Tokens of ordinary YAML texts

Every step of the scanner adds harmless tokens and leaves an end of the text, so all tokens of an
ordinary text are harmless (`harmless_of_mem_scan`): no tag stands in it, no version has digits, and
its plain scalars have none either. -/

namespace Fieldwise.Yaml

/-- A scanner before ordinary characters with harmless tokens. -/
structure Scanner.Ordinary (scanner : Scanner) : Prop where
  cursor : scanner.cursor.Ordinary
  tokens : ∀ token ∈ scanner.tokens, token.Harmless

namespace Scanner

/-- A step that goes on, if the text is not malformed. -/
abbrev Goes (result : Except Error Scanner) : Prop :=
  MalformedOr Ordinary result

variable {scanner : Scanner}

theorem harmless_insert {tokens : Array Token} (harmless : ∀ token ∈ tokens, token.Harmless)
    (place : Nat) {added : Token} (good : added.Harmless) :
    ∀ token ∈ tokens.insertIdxIfInBounds place added, token.Harmless := by
  intro token member
  rw [Array.insertIdxIfInBounds] at member
  split at member
  · obtain rfl | before := Array.mem_insertIdx.1 member
    · exact good
    · exact harmless token before
  · exact harmless token member

theorem Ordinary.push (ordinary : scanner.Ordinary) (added : Token) (good : added.Harmless) :
    (scanner.push added).Ordinary :=
  ⟨ordinary.cursor, Array.forall_mem_push.2 ⟨good, ordinary.tokens⟩⟩

theorem Ordinary.pushOver (ordinary : scanner.Ordinary) (count : Nat) (added : Token)
    (good : added.Harmless) :
    (scanner.pushOver count added).Ordinary :=
  ⟨ordinary.cursor.advance count, Array.forall_mem_push.2 ⟨good, ordinary.tokens⟩⟩

theorem Ordinary.closeTo (ordinary : scanner.Ordinary) (column : Int) :
    (scanner.closeTo column).Ordinary := by
  fun_cases Scanner.closeTo column scanner with
  | case1 | case2 => exact ordinary
  | case3 =>
    refine ⟨ordinary.cursor, fun token member => ?_⟩
    obtain before | ⟨-, rfl⟩ := (Array.mem_append.1 member).imp_right Array.mem_replicate.1
    · exact ordinary.tokens token before
    · trivial

theorem Ordinary.openAt (ordinary : scanner.Ordinary) (column place : Nat) (added : Token)
    (good : added.Harmless) : (scanner.openAt column place added).Ordinary := by
  rw [Scanner.openAt]
  split
  · exact ⟨ordinary.cursor, harmless_insert ordinary.tokens place good⟩
  · exact ordinary

theorem Ordinary.dropKey (ordinary : scanner.Ordinary) : Goes scanner.dropKey := by
  rw [Scanner.dropKey]
  split
  · split
    · rfl
    · exact ⟨ordinary.cursor, ordinary.tokens⟩
  · exact ordinary

theorem Ordinary.dropStaleKeys (ordinary : scanner.Ordinary) : Goes scanner.dropStaleKeys := by
  rw [Scanner.dropStaleKeys]
  split
  · rfl
  · exact ⟨ordinary.cursor, ordinary.tokens⟩

theorem Ordinary.markKey (ordinary : scanner.Ordinary) : Goes scanner.markKey := by
  rw [Scanner.markKey]
  split
  · exact ordinary.dropKey.bind fun _ after => ⟨after.cursor, after.tokens⟩
  · exact ordinary

theorem Ordinary.skipGap (fuel : Nat) (ordinary : scanner.Ordinary) :
    (skipGap fuel scanner).Ordinary := by
  fun_induction Scanner.skipGap fuel scanner with
  | case1 => exact ordinary
  | case2 => exact ⟨(ordinary.cursor.skipWhile _).skipComment, ordinary.tokens⟩
  | case3 _ scanner _ _ _ _ taken ih =>
    have after : scanner.cursor.skipSpaces.skipComment.Ordinary :=
      (ordinary.cursor.skipWhile _).skipComment
    exact ih ⟨(after.takeBreak.of_eq taken).2, ordinary.tokens⟩

/-! ## Names and directives -/

theorem readName_ordinary {cursor : Cursor} (ordinary : cursor.Ordinary) :
    StaysOrdinary (readName cursor) := by
  fun_cases readName cursor with
  | case1 => rfl
  | case2 _ _ _ taken => exact ((ordinary.takeWhile _).of_eq taken).2

/-- A handle starts with an exclamation mark. -/
theorem readHandle_of_ordinary {cursor : Cursor} (ordinary : cursor.Ordinary) :
    readHandle cursor = .error .malformed := by
  rw [readHandle]
  split
  · rename_i rest same
    have mark := ordinary '!' (same ▸ List.mem_cons_self)
    cases mark
  · rfl

/-- A version has digits. -/
theorem readVersionPart_of_ordinary {cursor : Cursor} (ordinary : cursor.Ordinary) :
    readVersionPart cursor = .error .malformed := by
  have none : cursor.rest.takeWhile isDecimal = [] :=
    takeWhile_of_numberless (Ordinary.numberless ordinary)
  rw [readVersionPart, Cursor.takeWhile, none]

theorem requireTagGap_malformedOr (cursor : Cursor) :
    MalformedOr (fun _ => True) (requireTagGap cursor) := by
  rw [requireTagGap]
  split
  · trivial
  · rfl

theorem readDirective_ordinary {cursor : Cursor} (ordinary : cursor.Ordinary) :
    MalformedOr (fun found => found.1.Harmless ∧ found.2.Ordinary) (readDirective cursor) := by
  rw [readDirective]
  refine (readName_ordinary ordinary.step).bind fun found after => ?_
  obtain ⟨name, next⟩ := found
  refine (requireTagGap_malformedOr next).bind fun _ _ => ?_
  have spaces : next.skipSpaces.Ordinary := Cursor.Ordinary.skipWhile after _
  split
  · rw [readVersionPart_of_ordinary spaces]
    rfl
  · rw [readHandle_of_ordinary spaces]
    rfl
  · exact (skipLineEnd_ordinary (Cursor.Ordinary.skipWhile after _)).bind fun _ last => ⟨trivial, last⟩

theorem readAnchor_ordinary {cursor : Cursor} (ordinary : cursor.Ordinary) :
    StaysOrdinary (readAnchor cursor) := by
  rw [readAnchor]
  refine (readName_ordinary ordinary.step).bind fun found after => ?_
  dsimp only
  split
  · exact after
  · rfl

/-! ## Steps -/

/-- Whether a key is allowed, how deep the brackets are and where keys may start is of no account. -/
theorem Ordinary.of_parts {other : Scanner} (ordinary : scanner.Ordinary)
    (cursor : other.cursor = scanner.cursor)
    (tokens : other.tokens = scanner.tokens) : other.Ordinary :=
  ⟨cursor ▸ ordinary.cursor, tokens ▸ ordinary.tokens⟩

theorem Ordinary.endDocument (ordinary : scanner.Ordinary) : Goes scanner.endDocument :=
  (ordinary.closeTo (-1)).dropKey.bind fun _ after => after.of_parts rfl rfl

theorem Ordinary.openBracket (ordinary : scanner.Ordinary) {added : Token} (good : added.Harmless) :
    Goes (scanner.openBracket added) :=
  ordinary.markKey.bind fun _ after => (after.pushOver 1 added good).of_parts rfl rfl

theorem Ordinary.closeBracket (ordinary : scanner.Ordinary) {added : Token} (good : added.Harmless) :
    Goes (scanner.closeBracket added) := by
  refine ordinary.dropKey.bind fun next after => ?_
  dsimp only
  split
  · rfl
  · exact (after.pushOver 1 added good).of_parts rfl rfl

theorem Ordinary.separate (ordinary : scanner.Ordinary) : Goes scanner.separate :=
  ordinary.dropKey.bind fun _ after => (after.pushOver 1 .flowEntry trivial).of_parts rfl rfl

theorem Ordinary.openLine (ordinary : scanner.Ordinary) (added : Token) (good : added.Harmless) :
    Goes (scanner.openLine added) := by
  rw [Scanner.openLine]
  split
  · exact ordinary
  · split
    · exact ordinary.openAt _ _ added good
    · rfl

theorem Ordinary.markEntry (ordinary : scanner.Ordinary) : Goes scanner.markEntry :=
  (ordinary.openLine .blockSequence trivial).bind fun _ opened => opened.dropKey.bind fun _ after =>
    (after.pushOver 1 .blockEntry trivial).of_parts rfl rfl

theorem Ordinary.markExplicitKey (ordinary : scanner.Ordinary) : Goes scanner.markExplicitKey :=
  (ordinary.openLine .blockMapping trivial).bind fun _ opened => opened.dropKey.bind fun _ after =>
    (after.pushOver 1 .key trivial).of_parts rfl rfl

theorem Ordinary.markValue (ordinary : scanner.Ordinary) : Goes scanner.markValue := by
  rw [Scanner.markValue]
  split
  · rename_i key found
    have marked : Ordinary { scanner with
        keys := scanner.keys.filter (·.1 != scanner.flowLevel)
        tokens := scanner.tokens.insertIdxIfInBounds key.place .key
        keyAllowed := false } :=
      ⟨ordinary.cursor, harmless_insert ordinary.tokens _ trivial⟩
    refine Ordinary.pushOver ?_ 1 _ trivial
    split
    · exact marked
    · exact marked.openAt _ _ _ trivial
  · have opens := ordinary.openLine .blockMapping trivial
    exact opens.bind fun _ opened => opened.dropKey.bind fun _ after =>
      (after.pushOver 1 .value trivial).of_parts rfl rfl

theorem Ordinary.pushNode (ordinary : scanner.Ordinary) {read : Cursor → Except Error (Token × Cursor)}
    (harmless : ∀ cursor : Cursor, cursor.Ordinary →
      MalformedOr (fun found => found.1.Harmless ∧ found.2.Ordinary) (read cursor)) :
    Goes (scanner.pushNode read) :=
  ordinary.markKey.bind fun next after => (harmless next.cursor after.cursor).bind fun _ found =>
    ⟨found.2, (after.push _ found.1).tokens⟩

theorem Ordinary.pushQuoted (ordinary : scanner.Ordinary) (half : Option Char) (double : Bool) :
    Goes (scanner.pushQuoted half double) :=
  ordinary.pushNode fun _ before => (readQuoted_ordinary half double _ before.step).bind fun _ after =>
    ⟨trivial, after⟩

theorem Ordinary.pushPlain (ordinary : scanner.Ordinary) : Goes scanner.pushPlain := by
  refine ordinary.markKey.bind fun next after => ?_
  have scalar := readPlain_ordinary next.inFlow next.indent after.cursor
  have good : (Token.scalar true (String.ofList
      (readPlain next.inFlow next.indent next.cursor).text)).Harmless := by
    refine harmless_ofPlain ?_ ?_
    · rw [String.toList_ofList]
      exact Ordinary.numberless scalar.text
    · rw [String.toList_ofList]
      exact scalar.ending
  exact ⟨scalar.after, (after.push _ good).tokens⟩

theorem Ordinary.pushBlock (ordinary : scanner.Ordinary) (fold : Bool) :
    Goes (scanner.pushBlock fold) :=
  ordinary.dropKey.bind fun next after =>
    (readBlock_ordinary fold next.indent after.cursor.step).bind fun _ last =>
      ⟨last, (after.push (.scalar false _) trivial).tokens⟩

theorem Ordinary.pushAnchor (ordinary : scanner.Ordinary) {token : String → Token}
    (harmless : ∀ name, (token name).Harmless) : Goes (scanner.pushNode fun cursor =>
      (readAnchor cursor).map fun (name, cursor) => (token name, cursor)) :=
  ordinary.pushNode fun _ before => (readAnchor_ordinary before).map fun _ after => ⟨harmless _, after⟩

theorem Ordinary.pushToken (ordinary : scanner.Ordinary) (half : Option Char) {char : Char}
    {rest : List Char} (same : scanner.cursor.rest = char :: rest) :
    Goes (scanner.pushToken half char rest) := by
  have first := (isOrdinary_iff char).1 (ordinary.cursor char (same ▸ List.mem_cons_self))
  fun_cases Scanner.pushToken half char rest scanner with
  | case1 => exact ordinary.endDocument.bind fun next after =>
      (readDirective_ordinary after.cursor).bind fun _ found => ⟨found.2, (after.push _ found.1).tokens⟩
  | case2 | case3 => exact ordinary.endDocument.map fun _ after => after.pushOver 3 _ trivial
  | case4 | case5 => exact ordinary.openBracket trivial
  | case6 | case7 => exact ordinary.closeBracket trivial
  | case8 => exact ordinary.separate
  | case9 => exact ordinary.markEntry
  | case10 => exact ordinary.markExplicitKey
  | case11 => exact ordinary.markValue
  | case12 | case13 => exact ordinary.pushAnchor fun _ => trivial
  | case14 => exact absurd (beq_iff_eq.1 ‹_›) first.2.1
  | case15 | case16 => exact ordinary.pushBlock _
  | case17 | case18 => exact ordinary.pushQuoted _ _
  | case19 => exact ordinary.pushPlain
  | case20 => rfl

theorem Ordinary.next (ordinary : scanner.Ordinary) (half : Option Char) :
    Goes (match scanner.cursor.rest with
      | [] => scanner.endDocument
      | char :: rest => scanner.pushToken half char rest) := by
  split
  · exact ordinary.endDocument
  · exact ordinary.pushToken half ‹_›

end Scanner

end Fieldwise.Yaml
