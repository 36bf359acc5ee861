import Metering.Entity
import Metering.Period
import Metering.Rounded

/-!
# Observations

Counters are sampled now and then, so what an entity used exactly within a
period cannot be known. An observation keeps the first and the last sample
around the period, and the usage between them is apportioned to the period as
if it had gone on at a constant rate.

* `Observation.overlap`, `seconds`: the sampled time within the period;
* `Observation.usage`: the growth of a counter, scaled down for the sampled
  time before the period and for the sampled time after it;
* `Observation.gather`: one observation for each identity of a list of rows.
-/

namespace Metering

/-- The samples of one entity around a period. -/
structure Observation where
  /-- The entity. -/
  entity : Entity
  /-- Its first sample. -/
  first : Snapshot
  /-- Its last sample. -/
  last : Snapshot
  /-- The period that usage is apportioned to. -/
  period : Period
deriving Repr, DecidableEq

namespace Observation

/-- The observation that begins with a row. One sample is the first and the last. -/
def start (row : Row) (period : Period) : Observation :=
  ⟨row.entity, row.snapshot, row.snapshot, period⟩

/-- The observation after one more sample. -/
def see (o : Observation) (snapshot : Snapshot) : Observation := { o with last := snapshot }

/-- The part of the period between the two samples. It is inverted if both lie
    on one side of the period. -/
def overlap (o : Observation) : Period :=
  ⟨max o.period.beginningMs o.first.timestampMs, min o.period.endingMs o.last.timestampMs⟩

/-- The whole seconds of the overlap. -/
def seconds (o : Observation) : Int64 := o.overlap.durationMs / 1000

/-- The time from one instant to another, in rounded arithmetic. -/
def elapsed (fromMs toMs : Int64) : Rounded :=
  (Rounded.ofInt toMs.toInt).sub (Rounded.ofInt fromMs.toInt)

/-- What is left of one period's worth when the time `gap` outside of it is taken away. -/
def remainder (gap duration : Rounded) : Rounded := (Rounded.ofInt 1).sub (gap.div duration)

/-- The growth of a counter between the two samples. -/
def growth (o : Observation) (c : Counter) : Rounded :=
  (Rounded.ofInt (o.last.reading c).toInt).sub (Rounded.ofInt (o.first.reading c).toInt)

/-- The growth of a counter apportioned to the period: scaled once for the
    sampled time before it and once for that after it. It is negative if the
    counter went backwards. -/
def usage (o : Observation) (c : Counter) : Int64 :=
  let p := o.period
  let duration := elapsed p.beginningMs p.endingMs
  let sinceBeginning :=
    if o.first.timestampMs < p.beginningMs then
      (o.growth c).mul (remainder (elapsed o.first.timestampMs p.beginningMs) duration)
    else o.growth c
  let untilEnd :=
    if p.endingMs < o.last.timestampMs then
      sinceBeginning.mul (remainder (elapsed p.endingMs o.last.timestampMs) duration)
    else sinceBeginning
  untilEnd.truncate

/-- One observation for each identity of the rows. The first row of an identity
    gives its entity and its first sample, the last row its last sample. -/
def gather (rows : List Row) (period : Period) : Std.ExtTreeMap String Observation :=
  rows.foldl
    (fun seen row => seen.alter row.entity.identity fun
      | none => some (start row period)
      | some o => some (o.see row.snapshot))
    ∅

end Observation

end Metering
