import Metering.Proofs.Asking
import Metering.Proofs.Sorting
import Metering.Store.Tables

/-!
# What is asked of two tables

The outcome of each question to a database, as a function of the rows of its
tables: every later statement about a database rests on these.

* `run_latestIn`, `run_rowsIn`: what is read, which leaves the database as it was;
* `joined_eq_filter`: the rows of a window are chosen from the rows of all time;
* `mem_allRows`, `mem_joined`: the rows of all time, and of a window;
* `recent`, `sampled`, `run_purge`: what a purge keeps, and counts;
* `exists_of_run_purge`: a purge that succeeds has found both tables.
-/

namespace Metering.Tables

variable {es : List Entity} {ss : List Snapshot}

/-- The snapshots of all time beside their entities, in reading order. -/
def allRows (es : List Entity) (ss : List Snapshot) : List Row :=
  Row.sort <| es.flatMap fun e => (ss.filter (·.identity = e.identity)).map (Row.mk e)

/-- The snapshots of a window beside their entities, in reading order. -/
def joined (es : List Entity) (ss : List Snapshot) (w : Window) : List Row :=
  Row.sort <| es.flatMap fun e =>
    (ss.filter fun s => s.identity = e.identity ∧ w.Contains s.timestampMs).map (Row.mk e)

/-- The snapshots from an instant on. -/
def recent (cutoffMs : Int64) (ss : List Snapshot) : List Snapshot :=
  ss.filter fun s => cutoffMs ≤ s.timestampMs

/-- The entities that have a snapshot. -/
def sampled (es : List Entity) (ss : List Snapshot) : List Entity :=
  es.filter fun e => ss.any (·.identity = e.identity)

/-- The rows of a window are chosen from the rows of all time. -/
theorem joined_eq_filter (es : List Entity) (ss : List Snapshot) (w : Window) :
    joined es ss w = (allRows es ss).filter (w.Contains ·.snapshot.timestampMs) := by
  rw [allRows, ← Row.sort_filter, joined, List.filter_flatMap]
  refine congrArg (Row.sort <| es.flatMap ·) (funext fun e => ?_)
  rw [List.filter_map, List.filter_filter]
  refine congrArg (List.map (Row.mk e)) (List.filter_congr fun s _ => ?_)
  rw [Bool.decide_and, Bool.and_comm]
  rfl

theorem mem_allRows {row : Row} :
    row ∈ allRows es ss ↔ row.entity ∈ es ∧ row.snapshot ∈ ss ∧
      row.snapshot.identity = row.entity.identity := by
  obtain ⟨e, s⟩ := row
  simp only [allRows, Row.sort, List.mem_mergeSort, List.mem_flatMap, List.mem_map,
    List.mem_filter, decide_eq_true_eq, Row.mk.injEq]
  constructor
  · rintro ⟨e, he, s, ⟨hs, hid⟩, rfl, rfl⟩
    exact ⟨he, hs, hid⟩
  · rintro ⟨he, hs, hid⟩
    exact ⟨e, he, s, ⟨hs, hid⟩, rfl, rfl⟩

theorem mem_joined {w : Window} {row : Row} :
    row ∈ joined es ss w ↔ row.entity ∈ es ∧ row.snapshot ∈ ss ∧
      row.snapshot.identity = row.entity.identity ∧ w.Contains row.snapshot.timestampMs := by
  rw [joined_eq_filter, List.mem_filter, mem_allRows, decide_eq_true_eq, and_assoc, and_assoc]

theorem run_latestIn {db : Tables} (h : db.snapshots? = some ss) (w : Window) :
    (SnapshotStore.latestIn w).run db =
      (.ok ((ss.map (·.timestampMs)).filter (w.Contains ·)).max?, db) := by
  obtain ⟨entities?, snapshots?⟩ := db
  subst h
  rfl

theorem run_rowsIn (w : Window) :
    (SnapshotStore.rowsIn w).run (⟨some es, some ss⟩ : Tables) =
      (.ok (joined es ss w), ⟨some es, some ss⟩) := rfl

/-- A purge keeps the snapshots from the cutoff on and their entities, and counts
    what it removes. -/
theorem run_purge (cutoffMs : Int64) :
    (SnapshotStore.purge cutoffMs).run (⟨some es, some ss⟩ : Tables) =
      (.ok { snapshots := .ofNat (ss.length - (recent cutoffMs ss).length),
             entities := .ofNat (es.length - (sampled es (recent cutoffMs ss)).length) },
        ⟨some (sampled es (recent cutoffMs ss)), some (recent cutoffMs ss)⟩) := rfl

theorem exists_of_run_purge {db db' : Tables} {cutoffMs : Int64} {counts : PurgeCounts}
    (h : (SnapshotStore.purge cutoffMs).run db = (.ok counts, db')) :
    ∃ es ss, db = ⟨some es, some ss⟩ := by
  obtain ⟨_ | es, _ | ss⟩ := db
  · cases h
  · cases h
  · cases h
  · exact ⟨es, ss, rfl⟩

end Metering.Tables
