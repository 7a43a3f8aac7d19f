import Fieldwise.Proofs.RelatedLists
import Fieldwise.Validation

/-! # Checks of two documents

A check is compared with another one, or with itself on another document, by comparing the leaves in
which they differ. Strictly, both return related values or both report the same faults at the same
places. Otherwise only the values of the first check count: where it fails, nothing is asked of the
second. Both comparisons pass through all that checks are built from. -/

namespace Fieldwise

variable {α α' β β' ε ε' : Type} {strict : Prop}

/-- Two results that are related values or the same error. Unless the comparison is strict, the second
may also be anything where the first is an error. -/
inductive Alike (strict : Prop) (related : α → α' → Prop) : Except ε α → Except ε α' → Prop
  | value {value : α} {other : α'} (same : related value other) :
      Alike strict related (.ok value) (.ok other)
  | error (error : ε) : Alike strict related (.error error) (.error error)
  | beside (loose : ¬ strict) (error : ε) (second : Except ε α') :
      Alike strict related (.error error) second

namespace Datum

/-- Entries of the same keys. Under one key the values may be related instead of equal. -/
def EntriesAlike (key : String) (related : Datum → Datum → Prop) :
    List (Datum × Datum) → List (Datum × Datum) → Prop :=
  List.Forall₂ fun entry other =>
    entry.1 = other.1 ∧ (entry.2 = other.2 ∨ entry.1 = .text key ∧ related entry.2 other.2)

/-- Two documents that are equal, or mappings that differ under one key only. -/
inductive AlikeUnder (key : String) (related : Datum → Datum → Prop) : Datum → Datum → Prop
  | same (datum : Datum) : AlikeUnder key related datum datum
  | mapping {entries others : List (Datum × Datum)}
      (each : EntriesAlike key related entries others) :
      AlikeUnder key related (.mapping entries) (.mapping others)

/-- Two documents that are equal, or lists with related items. -/
inductive AlikeEach (related : Datum → Datum → Prop) : Datum → Datum → Prop
  | same (datum : Datum) : AlikeEach related datum datum
  | list {items others : List Datum} (each : List.Forall₂ related items others) :
      AlikeEach related (.list items) (.list others)

/-- The keys of two mappings are the same, and so are the values but for those of one key. -/
structure EqualApart (key : String) (entries others : List (Datum × Datum)) : Prop where
  lookup?_eq : ∀ name, name ≠ key → lookup? name entries = lookup? name others
  strayKeys_eq : ∀ declared, strayKeys declared entries = strayKeys declared others

end Datum

namespace Alike

variable {related : α → α' → Prop} {related' : β → β' → Prop}

theorem refl {related : α → α → Prop} (reflexive : ∀ value, related value value)
    (result : Except ε α) : Alike strict related result result := by
  cases result with
  | error error => exact .error error
  | ok value => exact .value (reflexive value)

/-- Whatever the first result returns, the second returns as well, up to the relation. -/
theorem exists_of_ok {first : Except ε α} {second : Except ε α'}
    (alike : Alike strict related first second) {value : α} (found : first = .ok value) :
    ∃ other, second = .ok other ∧ related value other := by
  cases alike with
  | value same =>
    cases found
    exact ⟨_, rfl, same⟩
  | error _ => cases found
  | beside _ _ _ => cases found

/-- Where errors are not compared, only what the first result returns counts. -/
theorem of_ok {first : Except ε α} {second : Except ε α'}
    (further : ∀ value, first = .ok value → ∃ other, second = .ok other ∧ related value other) :
    Alike False related first second := by
  cases first with
  | error error => exact .beside not_false error second
  | ok value =>
    obtain ⟨other, rfl, same⟩ := further value rfl
    exact .value same

theorem mapError {first : Except ε α} {second : Except ε α'}
    (alike : Alike strict related first second) (change : ε → ε') :
    Alike strict related (first.mapError change) (second.mapError change) := by
  cases alike with
  | value same => exact .value same
  | error error => exact .error (change error)
  | beside loose error second => exact .beside loose (change error) _

theorem bind {first : Except ε α} {second : Except ε α'} {next : α → Except ε β}
    {next' : α' → Except ε β'} (alike : Alike strict related first second)
    (further : ∀ value other, related value other →
      Alike strict related' (next value) (next' other)) :
    Alike strict related' (first >>= next) (second >>= next') := by
  cases alike with
  | value same => exact further _ _ same
  | error error => exact .error error
  | beside loose error second => exact .beside loose error _

theorem map {first : Except ε α} {second : Except ε α'} {change : α → β} {change' : α' → β'}
    (alike : Alike strict related first second)
    (further : ∀ value other, related value other → related' (change value) (change' other)) :
    Alike strict related' (first.map change) (second.map change') := by
  cases alike with
  | value same => exact .value (further _ _ same)
  | error error => exact .error error
  | beside loose error second => exact .beside loose error _

/-- Results that are alike are equal after a change that does not tell related values apart. -/
theorem map_eq {first : Except ε α} {second : Except ε α'} {change : α → β} {change' : α' → β}
    (alike : Alike True related first second)
    (same : ∀ value other, related value other → change value = change' other) :
    first.map change = second.map change' := by
  cases alike with
  | value related => exact congrArg Except.ok (same _ _ related)
  | error error => rfl
  | beside loose _ _ => exact absurd trivial loose

/-- Lists are compared item by item. -/
theorem mapM {γ γ' : Type} {change : γ → Except ε α} {change' : γ' → Except ε α'} {list : List γ}
    {list' : List γ'} (each : List.Forall₂ (fun item other =>
      Alike strict related (change item) (change' other)) list list') :
    Alike strict (List.Forall₂ related) (list.mapM change) (list'.mapM change') := by
  induction each with
  | nil => exact .value .nil
  | cons first _ ih =>
    rw [List.mapM_cons, List.mapM_cons]
    refine first.bind fun value other same => ?_
    exact ih.bind fun values others sameRest => .value (.cons same sameRest)

/-! ## Parts of documents -/

theorem within {first : Checked α} {second : Checked α'}
    (alike : Alike strict related first second) (step : PathStep) :
    Alike strict related (first.within step) (second.within step) :=
  alike.mapError _

theorem both {first : Checked α} {second : Checked α'} {third : Checked β} {fourth : Checked β'}
    (left : Alike strict related first second) (right : Alike strict related' third fourth) :
    Alike strict (fun pair pair' => related pair.1 pair'.1 ∧ related' pair.2 pair'.2)
      (first.both third) (second.both fourth) := by
  cases left with
  | value same =>
    cases right with
    | value same' => exact .value ⟨same, same'⟩
    | error details => exact .error details
    | beside loose details _ => exact .beside loose details _
  | error details =>
    cases right with
    | value _ => exact .error details
    | error more => exact .error (details ++ more)
    | beside loose more _ => exact .beside loose (details ++ more) _
  | beside loose details _ =>
    cases third with
    | ok _ => exact .beside loose details _
    | error more => exact .beside loose (details ++ more) _

variable {check : Datum → Checked α} {check' : Datum → Checked α'}

theorem checkEach {items others : List Datum} (each : List.Forall₂ (fun item other =>
      Alike strict related (check item) (check' other)) items others) (index : Nat) :
    Alike strict (List.Forall₂ related) (Datum.checkEach check index items)
      (Datum.checkEach check' index others) := by
  induction each generalizing index with
  | nil => exact .value .nil
  | cons first _ ih =>
    exact ((first.within _).both (ih _)).map fun _ _ same => .cons same.1 same.2

/-- The faults of undeclared keys come after those of the declared fields. -/
theorem closed {key : String} {entries others : List (Datum × Datum)}
    (apart : Datum.EqualApart key entries others) {first : Checked α} {second : Checked α'}
    (alike : Alike strict related first second) (declared : List String) :
    Alike strict related (Datum.closed declared entries first)
      (Datum.closed declared others second) := by
  rw [Datum.closed, Datum.closed, apart.strayKeys_eq]
  split
  · exact alike
  · cases alike with
    | value _ => exact .error _
    | error _ => exact .error _
    | beside loose _ _ => exact .beside loose _ _

theorem required {name : String} {entries others : List (Datum × Datum)}
    (found : Option.Rel (fun datum other => Alike strict related (check datum) (check' other))
      (Datum.lookup? name entries) (Datum.lookup? name others)) :
    Alike strict related (Datum.required entries name check)
      (Datum.required others name check') := by
  apply Alike.within
  generalize Datum.lookup? name entries = first at found ⊢
  generalize Datum.lookup? name others = second at found ⊢
  cases found with
  | none => exact .error _
  | some alike => exact alike

theorem defaulted {name : String} {entries others : List (Datum × Datum)} {default : α}
    {default' : α'} (same : related default default')
    (found : Option.Rel (fun datum other => Alike strict related (check datum) (check' other))
      (Datum.lookup? name entries) (Datum.lookup? name others)) :
    Alike strict related (Datum.defaulted entries name default check)
      (Datum.defaulted others name default' check') := by
  apply Alike.within
  generalize Datum.lookup? name entries = first at found ⊢
  generalize Datum.lookup? name others = second at found ⊢
  cases found with
  | none => exact .value same
  | some alike => exact alike

end Alike

/-! ## Mappings that differ under one key -/

namespace Datum

variable {key name : String} {entries others : List (Datum × Datum)}

theorem EqualApart.refl (key : String) (entries : List (Datum × Datum)) :
    EqualApart key entries entries :=
  ⟨fun _ _ => rfl, fun _ => rfl⟩

theorem EqualApart.required_eq (apart : EqualApart key entries others) (isApart : name ≠ key)
    (check : Datum → Checked α) : required entries name check = required others name check := by
  rw [required, required, apart.lookup?_eq name isApart]

theorem EqualApart.defaulted_eq (apart : EqualApart key entries others) (isApart : name ≠ key)
    (default : α) (check : Datum → Checked α) :
    defaulted entries name default check = defaulted others name default check := by
  rw [defaulted, defaulted, apart.lookup?_eq name isApart]

variable {related : Datum → Datum → Prop}

/-- A name is given by both or by neither, and the values are related if they can differ. -/
theorem EntriesAlike.lookup? (each : EntriesAlike key related entries others) (name : String) :
    Option.Rel (fun datum other => datum = other ∨ name = key ∧ related datum other)
      (Datum.lookup? name entries) (Datum.lookup? name others) := by
  induction each with
  | nil => exact .none
  | @cons entry other _ _ alike _ ih =>
    obtain ⟨entryKey, value⟩ := entry
    obtain ⟨otherKey, otherValue⟩ := other
    obtain ⟨same, alike⟩ := alike
    obtain rfl : entryKey = otherKey := same
    cases entryKey with
    | text given =>
      rw [Datum.lookup?, Datum.lookup?]
      by_cases isName : given = name
      · subst isName
        rw [if_pos rfl, if_pos rfl]
        refine .some (alike.imp_right fun differ => ⟨?_, differ.2⟩)
        exact Datum.text.inj differ.1
      · rw [if_neg isName, if_neg isName]
        exact ih
    | _ => exact ih

theorem EntriesAlike.equalApart (each : EntriesAlike key related entries others) :
    EqualApart key entries others where
  lookup?_eq name isApart := by
    have found := each.lookup? name
    generalize Datum.lookup? name entries = first at found ⊢
    generalize Datum.lookup? name others = second at found ⊢
    cases found with
    | none => rfl
    | some same => exact congrArg some (same.resolve_right fun differ => isApart differ.1)
  strayKeys_eq declared := by
    induction each with
    | nil => rfl
    | @cons entry other _ _ alike _ ih =>
      obtain ⟨entryKey, value⟩ := entry
      obtain ⟨otherKey, otherValue⟩ := other
      obtain rfl : entryKey = otherKey := alike.1
      have ih : List.filterMap _ _ = List.filterMap _ _ := ih
      rw [strayKeys, strayKeys, List.filterMap_cons, List.filterMap_cons, ih]

end Datum

end Fieldwise
