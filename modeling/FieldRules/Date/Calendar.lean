/-!
# The calendar

The proleptic Gregorian calendar: leap years, the lengths of the months, and their names.
-/

set_option autoImplicit false

namespace FieldRules.Calendar

/-- Whether a year is a leap year. -/
def isLeapYear (year : Nat) : Bool :=
  (year % 4 == 0 && year % 100 != 0) || year % 400 == 0

/-- The number of days of a month, zero if there is no such month. -/
def daysInMonth (year month : Nat) : Nat :=
  match month with
  | 1 | 3 | 5 | 7 | 8 | 10 | 12 => 31
  | 4 | 6 | 9 | 11 => 30
  | 2 => if isLeapYear year then 29 else 28
  | _ => 0

/-- Whether there is such a day. -/
def isDay (year month day : Nat) : Bool :=
  decide (1 ≤ day ∧ day ≤ daysInMonth year month)

/-- The names of the months, in order. -/
def monthNames : List String :=
  ["January", "February", "March", "April", "May", "June", "July", "August", "September",
    "October", "November", "December"]

/-- The number of the first month whose name begins with a text. -/
def monthNamed? (start : String) : Option Nat :=
  (monthNames.findIdx? fun name => start.toList.isPrefixOf name.toList).map (· + 1)

end FieldRules.Calendar
