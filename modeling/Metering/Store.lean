import Metering.Entity
import Metering.Failure
import Metering.Window

/-!
# Stores of snapshots

What reporting asks of a store: the rows of a window, the latest instant in a
window, and to purge what is old. A store is a value; asking it something may
fail, and leaves a store behind either way.

* `Asking`: a computation on a store;
* `SnapshotStore`: the questions. A purge has two parts, between which others
  may act: it begins, and later ends with its counts;
* `purge`: both parts of a purge together.
-/

namespace Metering

/-- A computation that asks a store of type `σ`. It may fail, and the store that
    it leaves is kept also then. -/
abbrev Asking (σ : Type) := ExceptT StoreError (StateM σ)

/-- The numbers of rows that a purge removed. -/
structure PurgeCounts where
  /-- Snapshots that were too old. -/
  snapshots : UInt64 := 0
  /-- Entities that had no snapshot left. -/
  entities : UInt64 := 0
deriving Repr, DecidableEq

/-- The questions that a store of snapshots answers. -/
class SnapshotStore (σ : Type) where
  /-- The snapshots of a window, each beside its entity. -/
  rowsIn : Window → Asking σ (List Row)
  /-- The latest instant within a window at which there is a snapshot. -/
  latestIn : Window → Asking σ (Option Int64)
  /-- A purge that has begun. -/
  Purging : Type
  /-- Begins to remove the snapshots before an instant. -/
  beginPurge : Int64 → StateM σ Purging
  /-- Ends a purge: removes the entities without snapshots and counts. -/
  endPurge : Purging → Asking σ PurgeCounts
  /-- Gives back the space of what was removed. Most stores need not do anything. -/
  compact : Asking σ Unit := pure ()

/-- Removes the snapshots before an instant, and the entities they leave behind. -/
def SnapshotStore.purge {σ : Type} [SnapshotStore σ] (cutoffMs : Int64) : Asking σ PurgeCounts := do
  let purging ← (beginPurge cutoffMs : StateM σ (Purging σ))
  endPurge purging

end Metering
