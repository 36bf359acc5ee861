import Metering.Observation
import Metering.Totals

/-!
# Reports

A report gives the totals of every group of entities that was observed.

* `Totals.charge`: one more observation in a group;
* `Report.charge`, `Report.ofObservations`: observations sorted into groups;
* `Report.rows`: the report as a list, in the order of the dimensions.
-/

namespace Metering

/-- The usage that is charged: a counter that went backwards counts as idle, so
    that one bad sample does not take away what others used. -/
def Observation.chargedUsage (o : Observation) (c : Counter) : Int64 :=
  if o.usage c < 0 then 0 else o.usage c

/-- The samples lie on one side of the period: its beginning comes after the last
    of them, or its end before the first. -/
def Observation.Outside (o : Observation) : Prop := o.overlap.durationMs < 0

instance (o : Observation) : Decidable o.Outside := inferInstanceAs (Decidable (_ < _))

/-- The totals with one more observation. One outside of the period counts for
    its kind of resource but adds neither usage nor time. -/
def Totals.charge (t : Totals) (o : Observation) : Totals :=
  if o.Outside then t.addEntity o.entity.resourceType 0
  else ((t.addDiskIo (o.chargedUsage .diskIo)).addNetworkIo (o.chargedUsage .networkIo)).addEntity
    o.entity.resourceType o.seconds

/-- The totals of each group. -/
abbrev Report := Std.ExtTreeMap Dimensions Totals

namespace Report

/-- The report with one more observation in the group of its entity. -/
def charge (r : Report) (o : Observation) : Report :=
  r.alter o.entity.dimensions fun totals => some ((totals.getD {}).charge o)

/-- The report on a list of observations. -/
def ofObservations (os : List Observation) : Report := os.foldl charge ∅

/-- A group and its totals. -/
structure Row where
  /-- The attributes that the entities of the group agree in. -/
  dimensions : Dimensions
  /-- What they used. -/
  totals : Totals
deriving DecidableEq

/-- The groups in the order of their dimensions. -/
def rows (r : Report) : List Row := r.toList.map fun (dimensions, totals) => ⟨dimensions, totals⟩

end Report

end Metering
