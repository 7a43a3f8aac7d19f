import Fieldwise.Number.Binary64

/-! # Shortest decimal text

A finite number is written with the fewest significant digits that read back as the same number, the
nearest of those. From `10 ^ -4` up to `10 ^ 16` the notation is positional, otherwise scientific
with at least two exponent digits. -/

namespace Fieldwise

/-- A positive decimal `0.d₁d₂… · 10 ^ point` with the digits `d₁d₂…`. -/
structure Digits where
  digits : List Char
  point : Int
  deriving DecidableEq, Repr

namespace Shortest

/-- Whole numbers `low ≤ value ≤ high` over one denominator: a number and the ends of the interval
of reals that round to it. The ends belong to the interval iff `closed`. -/
structure Neighbourhood where
  low : Nat
  value : Nat
  high : Nat
  denominator : Nat
  closed : Bool

/-- The interval of reals that round to `mantissa · 2 ^ exponent`. Below a power of two the spacing
is half as wide. -/
def neighbourhood (mantissa : Nat) (exponent : Int) : Neighbourhood :=
  let below := if mantissa = Binary64.leastFull ∧ Binary64.leastExponent < exponent then 1 else 2
  let shift := exponent - 2
  let scale := fun (units : Nat) => if 0 ≤ shift then units <<< shift.toNat else units
  { low := scale (4 * mantissa - below)
    value := scale (4 * mantissa)
    high := scale (4 * mantissa + 2)
    denominator := if 0 ≤ shift then 1 else 1 <<< (-shift).toNat
    closed := mantissa % 2 = 0 }

/-- `numerator / denominator · 10 ^ -power` as a fraction of whole numbers. -/
def tenth (numerator denominator : Nat) (power : Int) : Nat × Nat :=
  if 0 ≤ power then (numerator, denominator * powerOfTen power.toNat)
  else (numerator * powerOfTen (-power).toNat, denominator)

/-- Whether `numerator / denominator` is at least `10 ^ power`. -/
def reaches (numerator denominator : Nat) (power : Int) : Bool :=
  let fraction := tenth numerator denominator power
  fraction.2 ≤ fraction.1

/-- The `point` with `10 ^ (point - 1) ≤ numerator / denominator < 10 ^ point`, found near an
estimate from the binary logarithms. -/
def decimalPoint (numerator denominator : Nat) : Int :=
  let estimate : Int := ((numerator.log2 : Int) - denominator.log2 - 1) * 30103 / 100000 - 1
  if reaches numerator denominator (estimate + 2) then estimate + 3
  else if reaches numerator denominator (estimate + 1) then estimate + 2
  else if reaches numerator denominator estimate then estimate + 1
  else estimate

/-- Whether `candidate · 10 ^ power` lies in the interval. -/
def inside (interval : Neighbourhood) (candidate : Nat) (power : Int) : Bool :=
  let size := if 0 ≤ power then candidate * powerOfTen power.toNat * interval.denominator
    else candidate * interval.denominator
  let unit := if 0 ≤ power then 1 else powerOfTen (-power).toNat
  let low := interval.low * unit
  let high := interval.high * unit
  if interval.closed then low ≤ size && size ≤ high else low < size && size < high

/-- The best candidate with `10 ^ power` as last place, if one of the two around the value reads
back. -/
def candidate? (interval : Neighbourhood) (power : Int) : Option Nat :=
  let fraction := tenth interval.value interval.denominator power
  let below := fraction.1 / fraction.2
  let rest := fraction.1 % fraction.2
  match inside interval below power, inside interval (below + 1) power with
  | true, true =>
    some (if 2 * rest < fraction.2 ∨ (2 * rest = fraction.2 ∧ below % 2 = 0) then below
      else below + 1)
  | true, false => some below
  | false, true => some (below + 1)
  | false, false => none

/-- Tries one significant digit, then two, up to `count + places` of them. -/
def search (interval : Neighbourhood) (point : Int) : Nat → Nat → Nat × Int
  | 0, count => ((candidate? interval (point - count)).getD 0, point - count)
  | places + 1, count =>
    match candidate? interval (point - count) with
    | some digits => (digits, point - count)
    | none => search interval point places (count + 1)

/-- The shortest digits of `mantissa · 2 ^ exponent`; seventeen always suffice. -/
def digits (mantissa : Nat) (exponent : Int) : Digits :=
  let interval := neighbourhood mantissa exponent
  let point := decimalPoint interval.value interval.denominator
  let (number, power) := search interval point 17 1
  let text := (toString number).toList
  let significant := (text.reverse.dropWhile (· == '0')).reverse
  ⟨significant, power + text.length⟩

end Shortest

/-- Exponents are written with a sign and at least two digits. -/
def exponentText (exponent : Int) : String :=
  let size := toString exponent.natAbs
  (if exponent < 0 then "-" else "+") ++ (if size.length < 2 then "0" ++ size else size)

/-- Positional notation for `-4 < point ≤ 16`, scientific otherwise. With `keepPoint`, a whole
number in positional notation ends in `.0`. -/
def Digits.text (decimal : Digits) (keepPoint : Bool) : String :=
  let count : Int := decimal.digits.length
  if -4 < decimal.point ∧ decimal.point ≤ 16 then
    if decimal.point ≤ 0 then
      "0." ++ String.ofList (List.replicate (-decimal.point).toNat '0' ++ decimal.digits)
    else if count ≤ decimal.point then
      String.ofList (decimal.digits ++ List.replicate (decimal.point - count).toNat '0') ++
        (if keepPoint then ".0" else "")
    else
      String.ofList (decimal.digits.take decimal.point.toNat) ++ "." ++
        String.ofList (decimal.digits.drop decimal.point.toNat)
  else
    let fraction := decimal.digits.drop 1
    String.ofList (decimal.digits.take 1) ++
      (if fraction.isEmpty then "" else "." ++ String.ofList fraction) ++
      "e" ++ exponentText (decimal.point - 1)

/-- The text of a number: shortest digits, `inf` and `nan` for the special ones. -/
def Binary64.text (keepPoint : Bool) : Binary64 → String
  | .nan => "nan"
  | .infinite negative => if negative then "-inf" else "inf"
  | .finite negative mantissa exponent =>
    (if negative then "-" else "") ++
      if mantissa = 0 then (if keepPoint then "0.0" else "0")
      else (Shortest.digits mantissa exponent).text keepPoint

end Fieldwise
