import Fieldwise.Settings.Layer
import Mathlib.Data.List.Basic

/-! # Settings under layers

A table that is laid over settings replaces exactly the fields for whose keys it gives a value that
is accepted (`Settings.layer_eq`). So after any number of tables every field is the last accepted of
the values that they give for its key, and a value that is refused leaves in force what lies below
it (`Settings.layers_eq`). Only an infinite number for the indentation is neither accepted nor
refused. -/

namespace Fieldwise

/-- The last of some values that is accepted, as what it is accepted as; the default if none is. -/
def lastAccepted {α β : Type} (accept : α → Option β) (default : β) (values : List α) : β :=
  (values.filterMap accept).getLast?.getD default

section

variable {α β : Type} (accept : α → Option β)

/-- An accepted value takes the place of the default for the values after it. -/
theorem lastAccepted_cons (default : β) (value : α) (rest : List α) :
    lastAccepted accept default (value :: rest) =
      lastAccepted accept ((accept value).getD default) rest := by
  rw [lastAccepted, lastAccepted, List.filterMap_cons]
  cases accept value with
  | none => rfl
  | some accepted => rw [List.getLast?_cons, Option.getD_some, Option.getD_some]

theorem lastAccepted_append (default : β) (values more : List α) :
    lastAccepted accept default (values ++ more) =
      lastAccepted accept (lastAccepted accept default values) more := by
  induction values generalizing default with
  | nil => rfl
  | cons value rest ih => rw [List.cons_append, lastAccepted_cons, lastAccepted_cons, ih]

/-- What holds of the default and of all that is accepted holds of the last accepted. -/
theorem lastAccepted_of_forall {good : β → Prop} {default : β} (start : good default)
    (accepted : ∀ value result, accept value = some result → good result) (values : List α) :
    good (lastAccepted accept default values) := by
  rw [lastAccepted]
  cases last : (values.filterMap accept).getLast? with
  | none => exact start
  | some result =>
    obtain ⟨value, -, found⟩ := List.mem_filterMap.1 (List.mem_of_getLast? last)
    exact accepted value result found

theorem lastAccepted_toList (default : β) (value : Option α) :
    lastAccepted accept default value.toList = (value.bind accept).getD default := by
  cases value with
  | none => rfl
  | some value => exact lastAccepted_cons accept default value []

end

/-- A width: a value that stands for a whole number of at least one. -/
def Datum.widthSetting? (datum : Datum) : Option Int :=
  match datum.wholeSetting? with
  | .ok (some width) => if 1 ≤ width then some width else none
  | _ => none

/-- A value other than an infinite number stands for a whole number or for none. -/
theorem Datum.wholeSetting?_eq_ok {datum : Datum}
    (finite : ∀ negative, datum ≠ .real (.infinite negative)) :
    ∃ whole, datum.wholeSetting? = .ok whole := by
  cases datum with
  | real value =>
    cases value with
    | infinite negative => exact absurd rfl (finite negative)
    | _ => exact ⟨_, rfl⟩
  | _ => exact ⟨_, rfl⟩

namespace Settings

/-- A table gives no infinite number for the indentation. -/
def FiniteIndent (table : List (Datum × Datum)) : Prop :=
  ∀ negative, Datum.lookup? "indent" table ≠ some (.real (.infinite negative))

/-- Settings under the values that are given for each key: every field is the last of its values
that is accepted, or as it was. A name must not be blank and loses the blanks around it, a flag may
be any value, and an indentation must be at least one. -/
def under (given : String → List Datum) (settings : Settings) : Settings where
  optionalMarker :=
    lastAccepted Datum.nameSetting? settings.optionalMarker (given "optional_marker")
  selfMoves := lastAccepted (some ∘ Datum.flagSetting) settings.selfMoves (given "self_moves")
  selfConversions :=
    lastAccepted (some ∘ Datum.flagSetting) settings.selfConversions (given "self_conversions")
  strict := lastAccepted (some ∘ Datum.flagSetting) settings.strict (given "strict")
  movePrefix := lastAccepted Datum.nameSetting? settings.movePrefix (given "move_prefix")
  convertInfix := lastAccepted Datum.nameSetting? settings.convertInfix (given "convert_infix")
  indent := lastAccepted Datum.widthSetting? settings.indent (given "indent")

theorem under_append (given more : String → List Datum) (settings : Settings) :
    settings.under (fun key => given key ++ more key) = (settings.under given).under more := by
  simp only [under, lastAccepted_append]

/-- Only the values of the seven keys matter. -/
theorem under_congr {given given' : String → List Datum}
    (same : ∀ key ∈ keys, given key = given' key) (settings : Settings) :
    settings.under given = settings.under given' := by
  simp only [keys, List.forall_mem_cons] at same
  obtain ⟨marker, moves, conversions, strict, lead, conversion, indent, -⟩ := same
  simp only [under, marker, moves, conversions, strict, lead, conversion, indent]

/-! ## One table, and one after the other -/

theorem layeredName_eq (table : List (Datum × Datum)) (key current : String) :
    layeredName table key current =
      lastAccepted Datum.nameSetting? current (Datum.lookup? key table).toList :=
  (lastAccepted_toList _ _ _).symm

theorem layeredFlag_eq (table : List (Datum × Datum)) (key : String) (current : Bool) :
    layeredFlag table key current =
      lastAccepted (some ∘ Datum.flagSetting) current (Datum.lookup? key table).toList := by
  rw [lastAccepted_toList, ← Option.map_eq_bind, layeredFlag]

theorem layeredWidth_eq {table : List (Datum × Datum)} (finite : FiniteIndent table)
    (current : Int) : layeredWidth table "indent" current =
      .ok (lastAccepted Datum.widthSetting? current (Datum.lookup? "indent" table).toList) := by
  rw [lastAccepted_toList, layeredWidth]
  cases found : Datum.lookup? "indent" table with
  | none => rfl
  | some value =>
    obtain ⟨whole, read⟩ := Datum.wholeSetting?_eq_ok fun negative (same : value = _) =>
      finite negative (by rw [found, same])
    rw [Option.bind_some, Datum.widthSetting?]
    dsimp only
    rw [read]
    cases whole with
    | none => rfl
    | some width =>
      change Except.ok (if 1 ≤ width then width else current) = _
      dsimp only
      split <;> rfl

/-- A table replaces the fields for whose keys it gives an accepted value. -/
theorem layer_eq {table : List (Datum × Datum)} (finite : FiniteIndent table)
    (settings : Settings) :
    settings.layer table = .ok (settings.under fun key => (Datum.lookup? key table).toList) := by
  rw [layer, layeredWidth_eq finite]
  simp only [layeredName_eq, layeredFlag_eq]
  rfl

/-- After tables one over the other every field is the last accepted of the values for its key. -/
theorem layers_eq {tables : List (List (Datum × Datum))}
    (finite : ∀ table ∈ tables, FiniteIndent table) (settings : Settings) :
    tables.foldlM (fun settings table => settings.layer table) settings =
      .ok (settings.under fun key => tables.filterMap (Datum.lookup? key)) := by
  induction tables generalizing settings with
  | nil => rfl
  | cons table rest ih =>
    obtain ⟨first, others⟩ := List.forall_mem_cons.1 finite
    have split (key : String) : (table :: rest).filterMap (Datum.lookup? key) =
        (Datum.lookup? key table).toList ++ rest.filterMap (Datum.lookup? key) := by
      rw [List.filterMap_cons]
      cases Datum.lookup? key table <;> rfl
    simp only [split]
    rw [under_append, List.foldlM_cons, layer_eq first]
    exact ih others _

end Settings

end Fieldwise
