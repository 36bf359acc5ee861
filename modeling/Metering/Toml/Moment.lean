import Metering.Calendar
import Metering.Text.Digits

/-!
# Dates and times of day

The notation of dates, of times of day, and of both together, with or without
the distance from universal time. Seconds may be left out. Nothing here is set
by a moment; it only matters which texts are one.

* `isMoment`: the text is a date, a time, or both.
-/

namespace Metering.Toml.Moment

/-- A number that is written in so many decimal digits, and the rest. -/
def number? (width : Nat) (s : List Char) : Option (Nat × List Char) := do
  let ds ← (s.take width).mapM (Text.digit? 10)
  if ds.length = width then some (Text.ofDigits 10 ds, s.drop width) else none

/-- A number of two digits that is at most `greatest`, and the rest. -/
def upTo? (greatest : Nat) (s : List Char) : Option (Nat × List Char) :=
  (number? 2 s).filter (·.1 ≤ greatest)

/-- The text behind a date at its head. -/
def afterDate? (s : List Char) : Option (List Char) :=
  match number? 4 s with
  | some (year, '-' :: s) =>
    match number? 2 s with
    | some (month, '-' :: s) =>
      match number? 2 s with
      | some (day, s) => if (Date.mk year month day).isValid then some s else none
      | none => none
    | _ => none
  | _ => none

/-- The text behind a fraction of a second, if there is one at its head. -/
def afterFraction? : List Char → Option (List Char)
  | '.' :: s =>
    match Text.digits 10 s with
    | ([], _) => none
    | (_, s) => some s
  | s => some s

/-- The text behind the seconds, if there are some at its head. A minute may have
    a sixty-first second. -/
def afterSeconds? : List Char → Option (List Char)
  | ':' :: s => (upTo? 60 s).bind fun (_, s) => afterFraction? s
  | s => some s

/-- The text behind a time of day at its head. -/
def afterTime? (s : List Char) : Option (List Char) :=
  match upTo? 23 s with
  | some (_, ':' :: s) => (upTo? 59 s).bind fun (_, s) => afterSeconds? s
  | _ => none

/-- The text is nothing, or a distance from universal time. -/
def isOffset : List Char → Bool
  | [] | ['Z'] | ['z'] => true
  | '+' :: s | '-' :: s =>
    match upTo? 23 s with
    | some (_, ':' :: s) => (upTo? 59 s).any (·.2.isEmpty)
    | _ => false
  | _ => false

/-- The text is a date, a time, or both. -/
def isMoment (s : List Char) : Bool :=
  match afterDate? s with
  | some [] => true
  | some (c :: s) => ['T', 't', ' '].contains c && (afterTime? s).any isOffset
  | none => afterTime? s = some []

end Metering.Toml.Moment
