import Metering.Saturation

/-!
# Periods

A period is the stretch of time that a report covers, and also the overlap of
such a stretch with the samples of one entity; an overlap may be inverted.

* `Period.durationMs`: the length, negative for an inverted period;
* `Period.Valid`: what a report accepts, a beginning before the end.
-/

namespace Metering

/-- A stretch of time between two instants, in milliseconds since the epoch. -/
structure Period where
  /-- The instant at which the period begins. -/
  beginningMs : Int64
  /-- The instant at which the period ends. -/
  endingMs : Int64
deriving Repr, DecidableEq

namespace Period

/-- The length in milliseconds, at most the largest 64-bit integer; negative if
    the end comes first. -/
def durationMs (p : Period) : Int64 := Saturation.sub p.endingMs p.beginningMs

/-- A period that usage can be apportioned to: it begins before it ends. -/
def Valid (p : Period) : Prop := p.beginningMs < p.endingMs

instance (p : Period) : Decidable p.Valid := inferInstanceAs (Decidable (_ < _))

/-- Both instants in brackets. -/
def text (p : Period) : String :=
  "[" ++ toString p.beginningMs.toInt ++ ", " ++ toString p.endingMs.toInt ++ "]"

end Period

end Metering
