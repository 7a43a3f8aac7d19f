/-! # Binary floating-point numbers

Decimal literals denote the nearest number of the form `± m · 2^e` with `m < 2^53` and
`-1074 ≤ e ≤ 971`, a tie going to the even `m`; what is too large is infinite. Everything is exact
integer arithmetic, so that the rounding rule is visible to proofs. -/

namespace Fieldwise

def powerOfTen (exponent : Nat) : Nat :=
  Nat.pow 10 exponent

/-- A number of the binary64 format. A finite one is `± mantissa · 2 ^ exponent`. -/
inductive Binary64 where
  | finite (negative : Bool) (mantissa : Nat) (exponent : Int)
  | infinite (negative : Bool)
  | nan
  deriving DecidableEq, Repr, Inhabited

namespace Binary64

/-- The smallest exponent; numbers below `2 ^ 52 · 2 ^ leastExponent` lose precision. -/
def leastExponent : Int := -1074

/-- The smallest mantissa of full precision. -/
def leastFull : Nat := 1 <<< 52

/-- The largest exponent of a finite number. -/
def greatestExponent : Int := 971

/-- The nearest whole number to `numerator / denominator`, a tie going to the even one. -/
def roundHalfEven (numerator denominator : Nat) : Nat :=
  let quotient := numerator / denominator
  let rest := numerator % denominator
  if 2 * rest < denominator then quotient
  else if denominator < 2 * rest then quotient + 1
  else if quotient % 2 = 0 then quotient
  else quotient + 1

/-- `numerator / denominator / 2 ^ exponent` as a fraction of whole numbers. -/
def scaled (numerator denominator : Nat) (exponent : Int) : Nat × Nat :=
  if 0 ≤ exponent then (numerator, denominator <<< exponent.toNat)
  else (numerator <<< (-exponent).toNat, denominator)

/-- The exponent at which a positive fraction has a 53-bit quotient, but no less than the least. -/
def quotientExponent (numerator denominator : Nat) : Int :=
  let estimate : Int := (numerator.log2 : Int) - denominator.log2 - 53
  let fraction := scaled numerator denominator estimate
  max leastExponent (if fraction.1 / fraction.2 < 2 * leastFull then estimate else estimate + 1)

/-- The number nearest to `± numerator / denominator`. -/
def ofRatio (negative : Bool) (numerator denominator : Nat) : Binary64 :=
  if numerator = 0 then finite negative 0 leastExponent
  else
    let exponent := quotientExponent numerator denominator
    let fraction := scaled numerator denominator exponent
    let mantissa := roundHalfEven fraction.1 fraction.2
    let (mantissa, exponent) :=
      if mantissa = 2 * leastFull then (leastFull, exponent + 1) else (mantissa, exponent)
    if greatestExponent < exponent then infinite negative else finite negative mantissa exponent

/-- The number nearest to `± digits · 10 ^ exponent`. Magnitudes far outside the range are settled
without computing the power. -/
def ofDecimal (negative : Bool) (digits : Nat) (exponent : Int) : Binary64 :=
  let magnitude : Int := (digits.log2 : Int) * 30103 / 100000 + exponent
  if digits = 0 then finite negative 0 leastExponent
  else if 400 < magnitude then infinite negative
  else if magnitude < -400 then finite negative 0 leastExponent
  else if 0 ≤ exponent then ofRatio negative (digits * powerOfTen exponent.toNat) 1
  else ofRatio negative digits (powerOfTen (-exponent).toNat)

/-- The number nearest to a whole number. -/
def ofInt (value : Int) : Binary64 :=
  ofRatio (value < 0) value.natAbs 1

/-- The number with the fraction cut off; infinities and NaN have none. -/
def truncate? : Binary64 → Option Int
  | finite negative mantissa exponent =>
    let size :=
      if 0 ≤ exponent then mantissa <<< exponent.toNat else mantissa >>> (-exponent).toNat
    some (if negative then -(size : Int) else (size : Int))
  | _ => none

def whole? : Binary64 → Option Int
  | finite negative mantissa exponent =>
    if 0 ≤ exponent ∨ mantissa % (1 <<< (-exponent).toNat) = 0 then
      truncate? (finite negative mantissa exponent)
    else none
  | _ => none

/-- Zero of either sign. -/
def isZero : Binary64 → Bool
  | finite _ mantissa _ => mantissa == 0
  | _ => false

end Binary64

end Fieldwise
