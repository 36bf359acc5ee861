import Metering.Calendar
import Metering.Cron.Field

/-!
# Schedules

A schedule matches the instants at which something is to be done, second by
second. It is written as six fields, or seven with the years, or as one of a
few words for common schedules.

* `Schedule.read?`: the schedule that a text describes;
* `Reader`: what is taken for a schedule, where it does not matter how it is written;
* `Schedule.nextAfter?`: the first instant after a given one that it matches.
  Days of the month and of the week both have to fit.
-/

namespace Metering.Cron

/-- The values that a schedule matches, in ascending order. -/
structure Schedule where
  /-- Seconds of a minute. -/
  seconds : List Nat
  /-- Minutes of an hour. -/
  minutes : List Nat
  /-- Hours of a day. -/
  hours : List Nat
  /-- Days of a month. -/
  daysOfMonth : List Nat
  /-- Months. -/
  months : List Nat
  /-- Days of a week. -/
  daysOfWeek : List Nat
  /-- Years. -/
  years : List Nat
deriving Repr, DecidableEq

namespace Schedule

/-- The years of a schedule that does not name any: all of them. -/
def everyYear : List Nat := List.range' Part.year.least (Part.year.greatest + 1 - Part.year.least)

/-- The schedule that fields describe. -/
def readFields? (s : List Char) : Option Schedule := do
  let (seconds, s) ← Part.second.read? s
  let (minutes, s) ← Part.minute.read? s
  let (hours, s) ← Part.hour.read? s
  let (daysOfMonth, s) ← Part.dayOfMonth.read? s
  let (months, s) ← Part.month.read? s
  let (daysOfWeek, s) ← Part.dayOfWeek.read? s
  let (years, s) ← if s.isEmpty then some (everyYear, s) else Part.year.read? s
  if s.isEmpty then some ⟨seconds, minutes, hours, daysOfMonth, months, daysOfWeek, years⟩
  else none

/-- The words for common schedules, and the fields they stand for. -/
def words : List (String × String) :=
  [("@yearly", "0 0 0 1 1 *"), ("@monthly", "0 0 0 1 * *"), ("@weekly", "0 0 0 * * 1"),
    ("@daily", "0 0 0 * * *"), ("@hourly", "0 0 * * * *")]

/-- A text without the blanks around it. -/
def trim (s : List Char) : List Char := (skipBlank (skipBlank s).reverse).reverse

/-- The schedule that a text describes. -/
def read? (text : String) : Option Schedule :=
  match words.lookup (String.ofList (trim text.toList)) with
  | some fields => readFields? fields.toList
  | none => readFields? text.toList

/-- The schedule matches some instant of a day. -/
def matchesDay (s : Schedule) (day : Nat) (date : Date) : Bool :=
  s.years.contains date.year && s.months.contains date.month &&
    s.daysOfMonth.contains date.day && s.daysOfWeek.contains (weekday day)

/-- The first second of a day, from a given one on, that the schedule matches. -/
def secondFrom? (s : Schedule) (least : Nat) : Option Nat :=
  s.hours.findSome? fun h =>
    if (h + 1) * 3600 ≤ least then none
    else s.minutes.findSome? fun m =>
      if h * 3600 + (m + 1) * 60 ≤ least then none
      else (s.seconds.map (h * 3600 + m * 60 + ·)).find? (least ≤ ·)

/-- The first instant that the schedule matches within so many days, from the
    given second of the first of them on. -/
def searchDays? (s : Schedule) : Nat → Nat → Date → Nat → Option Nat
  | 0, _, _, _ => none
  | days + 1, day, date, least =>
    let today := if s.matchesDay day date then s.secondFrom? least else none
    match today with
    | some second => some (day * 86400 + second)
    | none => s.searchDays? days (day + 1) date.next 0

/-- The days up to the end of the last year that a schedule can match. -/
def lastDay : Nat := (Part.year.greatest + 1 - 1970) * 366

/-- The first instant after `t` that the schedule matches, in seconds of local
    time since the beginning of 1970. -/
def nextAfter? (s : Schedule) (t : Nat) : Option Nat :=
  let day := (t + 1) / 86400
  s.searchDays? (lastDay - day) day (Date.ofDay day) ((t + 1) % 86400)

end Schedule

/-- What is taken for a schedule: some function of the text. -/
class Reader where
  /-- The schedule that a text describes. -/
  read? : String → Option Schedule

/-- The notation with fields, if no other is given. -/
instance : Reader := ⟨Schedule.read?⟩

end Metering.Cron
