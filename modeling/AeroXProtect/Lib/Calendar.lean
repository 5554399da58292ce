import Mathlib.Algebra.GroupWithZero.Nat
import Mathlib.Tactic.Common

/-!
# Dates

The Gregorian calendar: the length of the months, the days from the Unix epoch to a date and the
weekday of a date. A `DateTime` is a date that exists with a time of day, to the minute.
-/

namespace Lib

def isLeap (year : Nat) : Bool :=
  decide (year % 4 = 0) && (!decide (year % 100 = 0) || decide (year % 400 = 0))

def daysInMonth (year : Nat) : Nat → Nat
  | 2 => if isLeap year then 29 else 28
  | 4 | 6 | 9 | 11 => 30
  | _ => 31

/-- The days from the epoch to a date of the Gregorian calendar. -/
def dayNumber (year month day : Nat) : Int :=
  365 * ((year : Int) - 1) + (year - 1) / 4 - (year - 1) / 100 + (year - 1) / 400 +
    ((List.range (month - 1)).map fun k => daysInMonth year (k + 1)).sum + day - 1 - 719162

/-- A date and a time of day. -/
structure DateTime where
  year : Nat
  month : Nat
  day : Nat
  hour : Nat
  minute : Nat
  year_pos : 1 ≤ year
  month_range : 1 ≤ month ∧ month ≤ 12
  day_range : 1 ≤ day ∧ day ≤ daysInMonth year month
  hour_lt : hour < 24
  minute_lt : minute < 60

/-- `dt.isoweekday()`: 1 is Monday, 7 is Sunday. The epoch was a Thursday. -/
def DateTime.isoweekday (dt : DateTime) : Int := (dayNumber dt.year dt.month dt.day + 3) % 7 + 1

example : dayNumber 1970 1 1 = 0 := by decide +kernel
example : DateTime.isoweekday ⟨2026, 6, 8, 9, 0, by decide, by decide, by decide, by decide,
  by decide⟩ = 1 := by decide +kernel

end Lib
