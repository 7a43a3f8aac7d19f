import Fieldwise.Datum
import Fieldwise.Number.Whole

/-! # The calendar

Days and times of day that exist. The Gregorian rules hold for all years from 1 to 9999; a minute
has sixty seconds. -/

namespace Fieldwise

inductive CalendarFault where
  | year (value : Nat)
  | month
  | day
  | hour
  | minute
  | second
  | offset (seconds : Int)
  deriving DecidableEq, Repr

def CalendarFault.message : CalendarFault → String
  | year value => "year " ++ toString value ++ " is out of range"
  | month => "month must be in 1..12"
  | day => "day is out of range for month"
  | hour => "hour must be in 0..23"
  | minute => "minute must be in 0..59"
  | second => "second must be in 0..59"
  | offset seconds =>
    "offset must be a timedelta strictly between -timedelta(hours=24) and " ++
      "timedelta(hours=24), not " ++
      Datum.showDistance seconds ++ "."

def isLeapYear (year : Nat) : Bool :=
  year % 4 == 0 && (year % 100 != 0 || year % 400 == 0)

def daysInMonth (year month : Nat) : Nat :=
  if month = 2 then (if isLeapYear year then 29 else 28)
  else if month ∈ [4, 6, 9, 11] then 30
  else 31

/-- The first part of a day that is wrong: year, month, then day. -/
def Day.fault? (date : Day) : Option CalendarFault :=
  if date.year < 1 ∨ 9999 < date.year then some (.year date.year)
  else if date.month < 1 ∨ 12 < date.month then some .month
  else if date.day < 1 ∨ daysInMonth date.year date.month < date.day then some .day
  else none

/-- The first part of a time of day that is wrong. -/
def Clock.fault? (time : Clock) : Option CalendarFault :=
  if 23 < time.hour then some .hour
  else if 59 < time.minute then some .minute
  else if 59 < time.second then some .second
  else none

/-- The microseconds that the digits of a fraction of a second write; digits beyond the sixth are
cut off. -/
def microseconds (fraction : List Char) : Nat :=
  decimalValue ((fraction ++ List.replicate 6 '0').take 6)

end Fieldwise
