/-!
# Calendar days

Days are counted from the first of January 1970, a Thursday. A year is a leap
year if four divides it, unless 100 does and 400 does not.

* `Date.ofDay`: the date of a day;
* `weekday`: the day of its week, Sunday being the first.
-/

namespace Metering

/-- A date. Months and days of a month are counted from one. -/
structure Date where
  /-- The year. -/
  year : Nat
  /-- The month, from 1 to 12. -/
  month : Nat
  /-- The day of the month. -/
  day : Nat
deriving Repr, DecidableEq

namespace Date

/-- The year has a 29th of February. -/
def isLeap (year : Nat) : Bool := year % 4 = 0 && (year % 100 ≠ 0 || year % 400 = 0)

/-- The number of days of a month. -/
def daysOfMonth (year month : Nat) : Nat :=
  if month = 2 then if isLeap year then 29 else 28
  else if month = 4 ∨ month = 6 ∨ month = 9 ∨ month = 11 then 30
  else 31

/-- A month that there is, and a day that it has. -/
def isValid (d : Date) : Bool :=
  1 ≤ d.month && d.month ≤ 12 && 1 ≤ d.day && d.day ≤ daysOfMonth d.year d.month

/-- The date of day zero. -/
def epoch : Date := ⟨1970, 1, 1⟩

/-- The date of the day after. -/
def next (d : Date) : Date :=
  if d.day < daysOfMonth d.year d.month then { d with day := d.day + 1 }
  else if d.month < 12 then { d with month := d.month + 1, day := 1 }
  else ⟨d.year + 1, 1, 1⟩

/-- The date of a day. -/
def ofDay (day : Nat) : Date := Nat.repeat next day epoch

end Date

/-- The day of the week of a day, from 1 for Sunday to 7 for Saturday. -/
def weekday (day : Nat) : Nat := (day + 4) % 7 + 1

end Metering
