import Metering.FetchPolicy
import Metering.Report
import Metering.Search
import Metering.Store

/-!
# Reporting

What a service does with a store of snapshots: it reports the usage of a
period, and purges what is old.

* `latestBefore`: the latest snapshot before an instant, asked for window by
  window; the first failure ends the search;
* `summary`: the report of a period, complete or not at all;
* `purge`: the removal of old snapshots.
-/

namespace Metering.Reporting

variable {σ : Type} [SnapshotStore σ]

/-- A computation on a store that a caller of the service asked for. -/
abbrev Serving (σ : Type) := ExceptT ReportError (StateM σ)

/-- Passes a store's failure on to the caller. -/
def serve {α : Type} (x : Asking σ α) : Serving σ α := ExceptT.adapt .store x

/-- The latest instant in the first of the windows that holds a snapshot. -/
def firstLatest : List Window → Asking σ (Option Int64)
  | [] => pure none
  | w :: ws => do
    match ← SnapshotStore.latestIn w with
    | some t => pure (some t)
    | none => firstLatest ws

/-- The instant of the latest snapshot before `t`, of whatever entity, as far
    back as a search goes. -/
def latestBefore (t : Int64) : Asking σ (Option Int64) := firstLatest (Search.before t).windows

/-- The usage of every entity that was seen in a period, by group. -/
def summary (policy : FetchPolicy) (p : Period) : Serving σ Report := do
  unless p.Valid do throw (.invalidPeriod p)
  let anchor ← serve (latestBefore p.beginningMs)
  let rows ← serve (SnapshotStore.rowsIn (policy.window p anchor))
  pure (Report.ofObservations (Observation.gather (Row.sort rows) p).values)

/-- Removes for good the snapshots before an instant and the entities they leave behind. -/
def purge (cutoffMs : Int64) : Serving σ PurgeCounts := serve (SnapshotStore.purge cutoffMs)

end Metering.Reporting
