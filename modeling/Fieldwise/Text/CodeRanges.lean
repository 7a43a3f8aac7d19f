/-! # Sets of code points

Unicode properties are large, mostly contiguous sets. A `CodeRanges` keeps such a set as ascending
closed intervals, is read from lines of hexadecimal intervals (`"41-5a 61-7a aa"`), and answers
membership by bisection. -/

namespace Fieldwise.Text

/-- The value of one hexadecimal digit; `none` for every other character. -/
def hexDigitValue? (char : Char) : Option Nat :=
  if '0' ≤ char ∧ char ≤ '9' then some (char.toNat - '0'.toNat)
  else if 'a' ≤ char ∧ char ≤ 'f' then some (char.toNat - 'a'.toNat + 10)
  else if 'A' ≤ char ∧ char ≤ 'F' then some (char.toNat - 'A'.toNat + 10)
  else none

/-- The number written by a run of hexadecimal digits; other characters are skipped. -/
def hexValue (digits : List Char) : Nat :=
  digits.foldl (fun value char => ((hexDigitValue? char).map (16 * value + ·)).getD value) 0

/-- Cuts a list at every occurrence of a separator; `n` separators give `n + 1` pieces. -/
def pieces (separator : Char) : List Char → List (List Char)
  | [] => [[]]
  | char :: rest =>
    match pieces separator rest with
    | [] => [[char]]
    | piece :: others =>
      if char = separator then [] :: piece :: others else (char :: piece) :: others

/-- The entries of a table that is written as lines of entries separated by one space. -/
def entries (lines : List String) : List (List Char) :=
  lines.flatMap fun line => pieces ' ' line.toList

/-- Ascending, disjoint closed intervals of code points. -/
structure CodeRanges where
  bounds : Array (Nat × Nat)

namespace CodeRanges

/-- Reads `"lo-hi"` or `"point"`, both in hexadecimal. -/
def interval (text : List Char) : Nat × Nat :=
  match pieces '-' text with
  | [low, high] => (hexValue low, hexValue high)
  | _ => (hexValue text, hexValue text)

/-- Reads lines of intervals. -/
def ofLines (lines : List String) : CodeRanges :=
  ⟨((entries lines).map interval).toArray⟩

/-- Bisection between the indices `low` (inclusive) and `high` (exclusive). -/
def search (bounds : Array (Nat × Nat)) (code low high : Nat) : Bool :=
  if low < high then
    let middle := (low + high) / 2
    match bounds[middle]? with
    | none => false
    | some (first, last) =>
      if code < first then search bounds code low middle
      else if last < code then search bounds code (middle + 1) high
      else true
  else false
termination_by high - low

/-- Whether a code point lies in one of the intervals. -/
def contains (ranges : CodeRanges) (char : Char) : Bool :=
  search ranges.bounds char.toNat 0 ranges.bounds.size

end CodeRanges

end Fieldwise.Text
