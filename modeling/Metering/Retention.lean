import Metering.Reporting

/-!
# Retention

Snapshots are kept for a number of days; a retention pass purges those that
are older.
-/

namespace Metering.Retention

/-- A day in milliseconds. -/
def dayMs : Int64 := 86400000

/-- The instant before which snapshots are too old at `nowMs`. -/
def cutoff (nowMs : Int64) (days : UInt32) : Int64 :=
  Saturation.sub nowMs (Saturation.mul (Int64.ofNat days.toNat) dayMs)

/-- Purges what is too old at `nowMs`. -/
def pass {σ : Type} [SnapshotStore σ] (nowMs : Int64) (days : UInt32) :
    Reporting.Serving σ PurgeCounts :=
  Reporting.purge (cutoff nowMs days)

end Metering.Retention
