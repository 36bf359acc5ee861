import Metering.Saturation
import Std.Data.ExtTreeMap

/-!
# Totals

What a group of entities used within a period: two counters, and for each kind
of resource the seconds that its entities were observed and their number. Sums
stop at the ends of the 64-bit range.
-/

namespace Metering

/-- The usage of a group of entities. -/
structure Totals where
  /-- Disk traffic. -/
  diskIoMegs : Int64 := 0
  /-- Network traffic. -/
  networkIoMegs : Int64 := 0
  /-- The seconds within the period, by kind of resource. -/
  secondsByType : Std.ExtTreeMap String Int64 := ∅
  /-- The number of entities, by kind of resource. -/
  countByType : Std.ExtTreeMap String UInt64 := ∅
deriving DecidableEq

namespace Totals

/-- The totals with more disk traffic. -/
def addDiskIo (t : Totals) (megs : Int64) : Totals :=
  { t with diskIoMegs := Saturation.add t.diskIoMegs megs }

/-- The totals with more network traffic. -/
def addNetworkIo (t : Totals) (megs : Int64) : Totals :=
  { t with networkIoMegs := Saturation.add t.networkIoMegs megs }

/-- The totals with one more entity, a resource of the given kind that was
    observed for `seconds`. -/
def addEntity (t : Totals) (resourceType : String) (seconds : Int64) : Totals :=
  { t with
    secondsByType := t.secondsByType.alter resourceType fun sum =>
      some (Saturation.add (sum.getD 0) seconds)
    countByType := t.countByType.alter resourceType fun count => some (count.getD 0 + 1) }

end Totals

end Metering
