import Fieldwise.Scope

/-! # Settings

The options of a generation pass together with those of rendering. -/

namespace Fieldwise

/-- Everything that can be configured. -/
structure Settings where
  optionalMarker : String := TypeExpr.defaultMarker
  selfMoves : Bool := true
  selfConversions : Bool := true
  strict : Bool := false
  movePrefix : String := "move_corresponding"
  convertInfix : String := "from"
  indent : Int := 4
  deriving DecidableEq, Repr

def Settings.generation (settings : Settings) : GenerationOptions :=
  ⟨settings.optionalMarker, settings.selfMoves, settings.selfConversions, settings.strict⟩

end Fieldwise
