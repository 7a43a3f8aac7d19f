/-! # Outcomes

What a computation that may fail ends with: a value of one kind or an error of one kind. A
computation in steps ends so if each of its steps does. -/

namespace Fieldwise

variable {α β ε ε' : Type}

/-- A result that is an error with one property or a value with another. -/
def Outcome (fault : ε → Prop) (good : α → Prop) : Except ε α → Prop
  | .ok value => good value
  | .error error => fault error

namespace Outcome

variable {fault fault' : ε → Prop} {good good' : α → Prop} {better : β → Prop}

theorem of_ok {result : Except ε α} {value : α} (outcome : Outcome fault good result)
    (found : result = .ok value) : good value := by
  subst found
  exact outcome

theorem mono {result : Except ε α} (outcome : Outcome fault good result)
    (faults : ∀ error, fault error → fault' error) (goods : ∀ value, good value → good' value) :
    Outcome fault' good' result := by
  cases result with
  | ok value => exact goods value outcome
  | error error => exact faults error outcome

theorem bind {first : Except ε α} {next : α → Except ε β} (outcome : Outcome fault good first)
    (further : ∀ value, good value → Outcome fault better (next value)) :
    Outcome fault better (first >>= next) := by
  cases first with
  | ok value => exact further value outcome
  | error error => exact outcome

theorem map {first : Except ε α} {change : α → β} (outcome : Outcome fault good first)
    (goods : ∀ value, good value → better (change value)) :
    Outcome fault better (first.map change) := by
  cases first with
  | ok value => exact goods value outcome
  | error error => exact outcome

theorem mapError {result : Except ε α} {change : ε → ε'} {changed : ε' → Prop}
    (outcome : Outcome fault good result) (faults : ∀ error, fault error → changed (change error)) :
    Outcome changed good (result.mapError change) := by
  cases result with
  | ok value => exact outcome
  | error error => exact faults error outcome

end Outcome

end Fieldwise
