import Metering.Period
import Metering.Window

/-!
# Fetch policies

A report reads the snapshots of one window. It starts at the *anchor*, the
latest snapshot before the period, and ends a margin after the period, so that
some snapshot behind its end is likely to be seen. The margin grows with the
distance of the anchor: where samples are sparse, the next one is far away.

* `FetchPolicy.window`: the window of a report.
-/

namespace Metering

/-- How far the snapshots of a report reach beyond its period. -/
structure FetchPolicy where
  /-- The margin in units of the distance from the anchor to the period. -/
  marginMultiplier : Int64 := 2
  /-- The least margin, in milliseconds. -/
  minMarginMs : Int64 := 0
  /-- Read the snapshots at the anchor too, and not only those after it. -/
  includeAnchor : Bool := false
deriving Repr, DecidableEq

namespace FetchPolicy

/-- The margin after the period `p` for an anchor at `anchorMs`. -/
def marginMs (policy : FetchPolicy) (p : Period) (anchorMs : Int64) : Int64 :=
  max (Saturation.mul (Saturation.sub p.beginningMs anchorMs) policy.marginMultiplier)
    policy.minMarginMs

/-- The window of a report on the period `p`. Without an anchor it starts at the epoch. -/
def window (policy : FetchPolicy) (p : Period) (anchor : Option Int64) : Window :=
  let anchorMs := anchor.getD 0
  { afterMs := if policy.includeAnchor then Saturation.sub anchorMs 1 else anchorMs
    beforeMs := Saturation.add p.endingMs (policy.marginMs p anchorMs) }

end FetchPolicy

end Metering
