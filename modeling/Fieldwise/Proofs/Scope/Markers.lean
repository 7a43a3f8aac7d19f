import Fieldwise.Proofs.Scope.Shapes
import Fieldwise.Proofs.Type.Markers

/-! # Scopes under two markers

A pass sees the marker only through the shapes of the types. So two markers can be exchanged in all
types of a scope, and the pass that takes the second one for the marker returns what the pass that
takes the first one returned before (`Scope.generate_exchange`). -/

namespace Fieldwise

variable {first second : String}

def Field.exchange (first second : String) (field : Field) : Field :=
  { field with type := field.type.exchange first second }

namespace Schema

def exchange (first second : String) (schema : Schema) : Schema :=
  { schema with fields := schema.fields.map (Field.exchange first second) }

/-- All types of a schema take their optional marker from the first name. -/
def MarkedBy (first second : String) (schema : Schema) : Prop :=
  ∀ field ∈ schema.fields, field.type.MarkedBy first second

end Schema

def TypeExpr.Exchanges (first second : String) (type other : TypeExpr) : Prop :=
  type.exchange first second = other

/-- The exchange keeps equal types equal and others apart. -/
theorem TypeExpr.biUnique_exchanges (first second : String) :
    Relator.BiUnique (TypeExpr.Exchanges first second) := by
  refine ⟨fun type other result same same' => ?_, fun type result result' same same' => ?_⟩
  · exact TypeExpr.exchange_injective (same.trans same'.symm)
  · exact same.symm.trans same'

/-- The shapes of a marked type agree with those of the exchanged one. -/
theorem TypeExpr.MarkedBy.shapesRelated {type : TypeExpr} (marked : type.MarkedBy first second) :
    TypeExpr.ShapesRelated (TypeExpr.Exchanges first second) first second type
      (type.exchange first second) := by
  rw [TypeExpr.ShapesRelated, marked.shape_exchange]
  exact ⟨rfl, rfl⟩

theorem Schema.MarkedBy.related {schema : Schema} (marked : schema.MarkedBy first second) :
    schema.Related (TypeExpr.ShapesRelated (TypeExpr.Exchanges first second) first second)
      (schema.exchange first second) where
  name := rfl
  fields := by
    rw [Schema.exchange, List.forall₂_map_right_iff, List.forall₂_same]
    exact fun field member => ⟨rfl, (marked field member).shapesRelated⟩
  defaultConstructible := rfl

/-- A pass over a scope with the markers exchanged, under the second of them, returns what the pass
over the scope returns under the first. -/
theorem Scope.generate_exchange (options : GenerationOptions) {schemas : List Schema}
    (marked : ∀ schema ∈ schemas, schema.MarkedBy first second) :
    generate { options with marker := second } (schemas.map (Schema.exchange first second)) =
      generate { options with marker := first } schemas := by
  have each : List.Forall₂ (Schema.Related (TypeExpr.ShapesRelated
      (TypeExpr.Exchanges first second) first second)) schemas
        (schemas.map (Schema.exchange first second)) := by
    rw [List.forall₂_map_right_iff, List.forall₂_same]
    exact fun schema member => (marked schema member).related
  exact (generate_related options (TypeExpr.biUnique_exchanges first second) each).symm

end Fieldwise
