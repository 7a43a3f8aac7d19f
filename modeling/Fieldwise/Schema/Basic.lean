import Fieldwise.Shape
import Fieldwise.Text.Identifier
import Fieldwise.Text.Quoted

/-! # Schemas

A schema names a record type, its fields in declaration order, and whether a default instance can be
built. Field names may repeat here; `Schema.repeatedField?` finds the first that does. -/

namespace Fieldwise

structure Field where
  name : String
  type : TypeExpr
  deriving DecidableEq, Repr

/-- A record type as far as matching is concerned. -/
structure Schema where
  name : String
  fields : List Field
  defaultConstructible : Bool
  deriving DecidableEq, Repr

/-- The first item that occurred earlier in a list; `seen` holds the items before. -/
def firstRepeatFrom {α : Type} [DecidableEq α] (seen : List α) : List α → Option α
  | [] => none
  | item :: rest => if item ∈ seen then some item else firstRepeatFrom (item :: seen) rest

/-- The first item of a list that occurred earlier in it. -/
def firstRepeat? {α : Type} [DecidableEq α] (items : List α) : Option α :=
  firstRepeatFrom [] items

theorem firstRepeatFrom_eq_none_iff {α : Type} [DecidableEq α] (seen items : List α) :
    firstRepeatFrom seen items = none ↔ items.Nodup ∧ ∀ item ∈ items, item ∉ seen := by
  induction items generalizing seen with
  | nil => simp [firstRepeatFrom]
  | cons item rest ih =>
    unfold firstRepeatFrom
    split
    · rename_i repeated
      simp only [reduceCtorEq, List.mem_cons, false_iff, not_and]
      exact fun _ fresh => fresh item (Or.inl rfl) repeated
    · rename_i fresh
      rw [ih, List.nodup_cons]
      constructor
      · rintro ⟨distinct, apart⟩
        refine ⟨⟨fun inside => apart item inside (by simp), distinct⟩, ?_⟩
        intro other inside
        rcases List.mem_cons.1 inside with rfl | inside
        · exact fresh
        · exact fun earlier => apart other inside (List.mem_cons_of_mem _ earlier)
      · rintro ⟨⟨absent, distinct⟩, apart⟩
        refine ⟨distinct, fun other inside => ?_⟩
        rw [List.mem_cons]
        rintro (rfl | earlier)
        · exact absent inside
        · exact apart other (List.mem_cons_of_mem _ inside) earlier

/-- Nothing repeats exactly in a list of distinct items. -/
theorem firstRepeat?_eq_none_iff {α : Type} [DecidableEq α] (items : List α) :
    firstRepeat? items = none ↔ items.Nodup := by
  simp [firstRepeat?, firstRepeatFrom_eq_none_iff]

namespace Schema

def fieldNames (schema : Schema) : List String :=
  schema.fields.map (·.name)

/-- The first field name that is declared a second time. -/
def repeatedField? (schema : Schema) : Option String :=
  firstRepeat? schema.fieldNames

end Schema

/-- Names must be identifiers and no reserved words; otherwise this is the reason for refusal. -/
def requireIdentifier (subject name : String) : Except String String :=
  if Text.isFieldName name then .ok name
  else .error (subject ++ " name must be a non-keyword identifier (got " ++ Text.quoted name ++ ")")

end Fieldwise
