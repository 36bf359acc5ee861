import Metering.Proofs.Purging
import Metering.Proofs.Summary

/-!
# Reports after a purge

A report reads no snapshot before its anchor. A purge that leaves the anchor
alone therefore leaves the report alone: the search finds the same anchor, and
the fetch the same rows, in the same order.

* `FetchPolicy.le_of_contains_window`: a fetch does not reach back behind the anchor;
* `Tables.joined_purge`: a purge does not touch the rows of a window that reaches
  back to its cutoff at most;
* `run_latestBefore_of_purge`: a search finds what it found before the purge;
* `summary_of_purge`: the same anchor, the same rows and the same report.
-/

namespace Metering

/-! ### Windows behind a cutoff -/

/-- A fetch reaches back to its anchor at most, whether that is included or not. -/
theorem FetchPolicy.le_of_contains_window {policy : FetchPolicy} {p : Period} {a t : Int64}
    (h : (policy.window p (some a)).Contains t) : a ≤ t := by
  obtain ⟨hafter, -⟩ := h
  simp only [window, Option.getD_some] at hafter
  split at hafter
  · rw [Int64.lt_iff_toInt_lt, Saturation.toInt_sub] at hafter
    rw [Int64.le_iff_toInt_le]
    have := a.toInt_lt
    have := a.le_toInt
    have hone : (1 : Int64).toInt = 1 := by decide
    -- Either the anchor is not the first instant of all, or every instant is behind it.
    rw [Saturation.clamp] at hafter
    omega
  · exact Std.le_of_lt hafter

namespace Tables

/-- An entity without a kept snapshot has no rows behind the cutoff. -/
theorem filter_eq_nil_of_not_sampled {e : Entity} {ss : List Snapshot} {w : Window}
    (h : ¬ss.any (·.identity = e.identity)) :
    (ss.filter fun s => s.identity = e.identity ∧ w.Contains s.timestampMs) = [] := by
  refine List.filter_eq_nil_iff.2 fun s hs hrow => h ?_
  exact List.any_eq_true.2 ⟨s, hs, decide_eq_true (of_decide_eq_true hrow).1⟩

/-- The orphans among the entities have no part in what is read. -/
theorem joined_sampled (es : List Entity) (ss : List Snapshot) (w : Window) :
    joined (sampled es ss) ss w = joined es ss w := by
  refine congrArg Row.sort ?_
  rw [sampled]
  induction es with
  | nil => rfl
  | cons e es ih =>
    rw [List.filter_cons, List.flatMap_cons]
    split
    · rw [List.flatMap_cons, ih]
    · next h => rw [ih, filter_eq_nil_of_not_sampled h, List.map_nil, List.nil_append]

/-- The snapshots before a cutoff have no part in what is read behind it. -/
theorem joined_recent {c : Int64} {w : Window} (h : ∀ t, w.Contains t → c ≤ t) (es : List Entity)
    (ss : List Snapshot) : joined es (recent c ss) w = joined es ss w := by
  have hrows : ∀ e : Entity,
      (recent c ss).filter (fun s => s.identity = e.identity ∧ w.Contains s.timestampMs) =
        ss.filter fun s => s.identity = e.identity ∧ w.Contains s.timestampMs := by
    intro e
    rw [recent, List.filter_filter]
    refine List.filter_congr fun s _ => ?_
    rw [Bool.and_eq_left_iff_imp]
    intro hrow
    exact decide_eq_true (h _ (of_decide_eq_true hrow).2)
  simp only [joined, hrows]

/-- A purge does not change what is read behind its cutoff. -/
theorem joined_purge {c : Int64} {w : Window} (h : ∀ t, w.Contains t → c ≤ t) (es : List Entity)
    (ss : List Snapshot) :
    joined (sampled es (recent c ss)) (recent c ss) w = joined es ss w := by
  rw [joined_sampled, joined_recent h]

/-- What is asked for behind the cutoff of a purge is answered alike after it. -/
theorem run_rowsIn_of_purge {c : Int64} {w : Window} {db db' : Tables} {counts : PurgeCounts}
    (purged : (SnapshotStore.purge c).run db = (.ok counts, db'))
    (h : ∀ t, w.Contains t → c ≤ t) :
    ∃ rows, (SnapshotStore.rowsIn w).run db = (.ok rows, db) ∧
      (SnapshotStore.rowsIn w).run db' = (.ok rows, db') := by
  obtain ⟨es, ss, rfl⟩ := exists_of_run_purge purged
  rw [run_purge] at purged
  cases purged
  refine ⟨joined es ss w, run_rowsIn w, ?_⟩
  rw [run_rowsIn, joined_purge h]

end Tables

/-! ### What a search still finds -/

/-- The latest instant before `t` stays the latest when earlier ones go. -/
theorem max?_filter_lt_filter_le {ts : List Int64} {c t a : Int64}
    (h : (ts.filter (· < t)).max? = some a) (hc : c ≤ a) :
    ((ts.filter (c ≤ ·)).filter (· < t)).max? = some a := by
  obtain ⟨⟨hmem, hlt⟩, hle⟩ := max?_filter_lt_eq_some_iff.1 h
  refine max?_filter_lt_eq_some_iff.2 ⟨⟨?_, hlt⟩, fun u hu => hle u (List.mem_filter.1 hu).1⟩
  exact List.mem_filter.2 ⟨hmem, decide_eq_true hc⟩

theorem Tables.map_timestampMs_recent (c : Int64) (ss : List Snapshot) :
    (recent c ss).map (·.timestampMs) = (ss.map (·.timestampMs)).filter (c ≤ ·) := by
  rw [recent, List.filter_map]
  rfl

namespace Reporting

/-- A search that finds a snapshot finds the same one after a purge that keeps it. -/
theorem findSome?_latestOf_recent {c t a : Int64} {ss : List Snapshot} (hc : c ≤ a)
    (h : (Search.before t).windows.findSome? (latestOf (ss.map (·.timestampMs))) = some a) :
    (Search.before t).windows.findSome?
      (latestOf ((Tables.recent c ss).map (·.timestampMs))) = some a := by
  obtain ⟨hmax, hreached⟩ := Search.findSome?_windows_iff.1 h
  refine Search.findSome?_windows_iff.2 ⟨?_, hreached⟩
  rw [Tables.map_timestampMs_recent]
  exact max?_filter_lt_filter_le hmax hc

/-- A purge leaves what a search finds, if that is not before its cutoff. -/
theorem run_latestBefore_of_purge {c t a : Int64} {db db' : Tables} {counts : PurgeCounts}
    (purged : (SnapshotStore.purge c).run db = (.ok counts, db'))
    (found : ((latestBefore t).run db).1 = .ok (some a)) (kept : c ≤ a) :
    (latestBefore t).run db = (.ok (some a), db) ∧
      (latestBefore t).run db' = (.ok (some a), db') := by
  obtain ⟨es, ss, rfl⟩ := Tables.exists_of_run_purge purged
  rw [Tables.run_purge] at purged
  cases purged
  rw [run_latestBefore_tables rfl] at found
  have hfound := Except.ok.inj found
  rw [run_latestBefore_tables rfl, run_latestBefore_tables rfl, hfound,
    findSome?_latestOf_recent kept hfound]
  exact ⟨rfl, rfl⟩

/-- A purge whose cutoff is not after the anchor of a report leaves the anchor, the
    rows that the report reads, and the report. -/
theorem summary_of_purge (policy : FetchPolicy) {p : Period} {c a : Int64} {db db' : Tables}
    {counts : PurgeCounts} (valid : p.Valid)
    (purged : (SnapshotStore.purge c).run db = (.ok counts, db'))
    (anchor : ((latestBefore p.beginningMs).run db).1 = .ok (some a)) (kept : c ≤ a) :
    (latestBefore p.beginningMs).run db' = (.ok (some a), db') ∧
    (∃ rows, (SnapshotStore.rowsIn (policy.window p (some a))).run db = (.ok rows, db) ∧
      (SnapshotStore.rowsIn (policy.window p (some a))).run db' = (.ok rows, db')) ∧
    ∃ report, (summary policy p).run db = (.ok report, db) ∧
      (summary policy p).run db' = (.ok report, db') := by
  obtain ⟨hbefore, hafter⟩ := run_latestBefore_of_purge purged anchor kept
  have hbehind : ∀ t, (policy.window p (some a)).Contains t → c ≤ t := fun t ht =>
    Std.le_trans kept (FetchPolicy.le_of_contains_window ht)
  obtain ⟨rows, hrows, hrows'⟩ := Tables.run_rowsIn_of_purge purged hbehind
  have hreport := run_summary_of_fetches valid ⟨some a, db, hbefore, hrows⟩
  have hreport' := run_summary_of_fetches valid ⟨some a, db', hafter, hrows'⟩
  exact ⟨hafter, ⟨rows, hrows, hrows'⟩, _, hreport, hreport'⟩

/-- A purge at the very anchor, which the report reads too: the entity of the older
    snapshots goes, and the one whose snapshot is the anchor stays. -/
theorem summary_of_purge_at_anchor :
    let entity : String → Entity := fun x =>
      ⟨x, "vm", "small", "owner", "account", "cluster", "zone"⟩
    let db : Tables :=
      ⟨some [entity "old", entity "a"],
        some [⟨"a", 36000000, 1, 10⟩, ⟨"old", 35999999, 7, 7⟩, ⟨"a", 39600000, 5, 30⟩,
          ⟨"a", 28800000, 0, 5⟩]⟩
    let db' : Tables := ⟨some [entity "a"], some [⟨"a", 36000000, 1, 10⟩, ⟨"a", 39600000, 5, 30⟩]⟩
    let policy : FetchPolicy := { includeAnchor := true }
    let p : Period := ⟨37800000, 39000000⟩
    (SnapshotStore.purge 36000000).run db = (.ok ⟨2, 1⟩, db') ∧
      ((latestBefore p.beginningMs).run db).1 = .ok (some 36000000) ∧
      ∃ report, ((summary policy p).run db).1 = .ok report ∧
        ((summary policy p).run db').1 = .ok report := by
  intro entity db db' policy p
  have purged : (SnapshotStore.purge 36000000).run db = (.ok ⟨2, 1⟩, db') := rfl
  have valid : p.Valid := by decide
  have windows : (Search.before p.beginningMs).windows =
      [⟨30600000, 37800000⟩, ⟨23400000, 37800000⟩] := by decide +kernel
  have anchor : ((latestBefore p.beginningMs).run db).1 = .ok (some 36000000) := by
    rw [latestBefore, windows]
    rfl
  obtain ⟨-, -, report, hbefore, hafter⟩ :=
    summary_of_purge policy valid purged anchor (by decide)
  exact ⟨purged, anchor, report, congrArg Prod.fst hbefore, congrArg Prod.fst hafter⟩

end Reporting

end Metering
