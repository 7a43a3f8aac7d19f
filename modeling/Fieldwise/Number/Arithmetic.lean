import Fieldwise.Number.Binary64

/-! # Sums and products of binary floating-point numbers

Results are rounded once, from the exact fraction. -/

namespace Fieldwise.Binary64

/-- A finite number as a fraction with a positive denominator. -/
def fraction? : Binary64 → Option (Int × Nat)
  | finite negative mantissa exponent =>
    let (numerator, denominator) := scaled mantissa 1 (-exponent)
    some (if negative then -(numerator : Int) else (numerator : Int), denominator)
  | _ => none

/-- The number nearest to a fraction. -/
def ofFraction (numerator : Int) (denominator : Nat) : Binary64 :=
  ofRatio (numerator < 0) numerator.natAbs denominator

def negate : Binary64 → Binary64
  | finite negative mantissa exponent => finite (!negative) mantissa exponent
  | infinite negative => infinite (!negative)
  | nan => nan

def times : Binary64 → Binary64 → Binary64
  | finite negative mantissa exponent, finite negative' mantissa' exponent' =>
    let (numerator, denominator) := scaled (mantissa * mantissa') 1 (-(exponent + exponent'))
    ofRatio (negative != negative') numerator denominator
  | infinite negative, finite negative' mantissa _
  | finite negative' mantissa _, infinite negative =>
    if mantissa = 0 then nan else infinite (negative != negative')
  | infinite negative, infinite negative' => infinite (negative != negative')
  | nan, _ | _, nan => nan

/-- The sum of two numbers that are not both negative zeros. -/
def plus (first second : Binary64) : Binary64 :=
  match first, second with
  | nan, _ | _, nan => nan
  | infinite negative, infinite negative' =>
    if negative = negative' then infinite negative else nan
  | infinite negative, _ => infinite negative
  | _, infinite negative => infinite negative
  | first, second =>
    match first.fraction?, second.fraction? with
    | some (numerator, denominator), some (numerator', denominator') =>
      ofFraction (numerator * denominator' + numerator' * denominator) (denominator * denominator')
    | _, _ => nan

end Fieldwise.Binary64
