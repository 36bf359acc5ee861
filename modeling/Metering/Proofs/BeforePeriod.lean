import Metering.Proofs.Fetching
import Metering.Proofs.InPeriod
import Metering.Proofs.Reaching

/-!
# What a report reads of the time before

The anchor of a report is the latest snapshot before its period, of whatever entity. So
there is nothing to read between the anchor and the period, and the window, which starts
at the anchor, reads of the time before either the snapshots at the very anchor, if the
policy asks for them, or none at all.

* `Reporting.latest_of_run_latestBefore`: what the anchor is;
* `FetchPolicy.contains_window_iff`: the instants before a period that its window contains;
* `Observation.usageSinceBeginning`: usage without a share for the time before;
* `Reporting.rows_before_period`: the rows and the observations of a report.
-/

namespace Metering

/-! ### The anchor -/

namespace Reporting

variable {db : Tables} {t a : Int64}

/-- A search that finds something has found a table of snapshots. -/
theorem exists_snapshots_of_run_latestBefore
    (found : ((latestBefore t).run db).1 = .ok (some a)) : ∃ ss, db.snapshots? = some ss := by
  obtain ⟨entities?, _ | ss⟩ := db
  · rw [latestBefore] at found
    cases hws : (Search.before t).windows with
    | nil =>
      rw [hws] at found
      cases found
    | cons w ws =>
      rw [hws] at found
      cases found
  · exact ⟨ss, rfl⟩

/-- The anchor lies behind the epoch and before the instant of the search, and no
    snapshot lies in between. -/
theorem latest_of_run_latestBefore {ss : List Snapshot} (h : db.snapshots? = some ss)
    (found : ((latestBefore t).run db).1 = .ok (some a)) :
    0 < a ∧ a < t ∧ ∀ s ∈ ss, s.timestampMs < t → s.timestampMs ≤ a := by
  rw [run_latestBefore_tables h] at found
  obtain ⟨hmax, w, hw, hreached⟩ := Search.findSome?_windows_iff.1 (Except.ok.inj found)
  obtain ⟨⟨-, hlt⟩, hle⟩ := max?_filter_lt_eq_some_iff.1 hmax
  exact ⟨Std.lt_trans (Search.afterMs_pos_of_mem_windows hw) hreached, hlt,
    fun s hs => hle _ (List.mem_map.2 ⟨s, hs, rfl⟩)⟩

end Reporting

/-! ### The window -/

/-- Of the time before its period, a window contains what lies after the anchor, and the
    anchor itself if it is included. -/
theorem FetchPolicy.contains_window_iff {policy : FetchPolicy} {p : Period} {a t : Int64}
    (valid : p.Valid) (margin : 0 ≤ policy.minMarginMs) (positive : 0 < a)
    (before : t < p.beginningMs) :
    (policy.window p (some a)).Contains t ↔
      a < t ∨ policy.includeAnchor = true ∧ t = a := by
  have hbefore : t < (policy.window p (some a)).beforeMs :=
    Std.lt_of_lt_of_le (Std.lt_trans before valid) (endingMs_le_beforeMs margin p _)
  rw [Window.Contains, and_iff_left hbefore]
  have behind : ∀ b ∈ some a, 0 ≤ b := by
    rintro _ ⟨⟩
    exact Std.le_of_lt positive
  have hafter : (policy.window p (some a)).afterMs.toInt = _ := toInt_afterMs behind
  rw [Option.getD_some] at hafter
  rw [Int64.lt_iff_toInt_lt, Int64.lt_iff_toInt_lt, ← Int64.toInt_inj, hafter]
  cases policy.includeAnchor
  · simp
  · simp only [if_true, true_and]
    omega

namespace Tables

variable {es : List Entity} {ss : List Snapshot}

/-- With an anchor that no snapshot lies behind, the rows before the period are those at the
    anchor, or none. -/
theorem filter_joined_window {policy : FetchPolicy} {p : Period} {a : Int64} (valid : p.Valid)
    (margin : 0 ≤ policy.minMarginMs) (positive : 0 < a) (before : a < p.beginningMs)
    (latest : ∀ s ∈ ss, s.timestampMs < p.beginningMs → s.timestampMs ≤ a) :
    (joined es ss (policy.window p (some a))).filter (·.snapshot.timestampMs < p.beginningMs) =
      if policy.includeAnchor then (allRows es ss).filter (·.snapshot.timestampMs = a) else [] := by
  have hrow : ∀ row ∈ allRows es ss,
      ((row.snapshot.timestampMs < p.beginningMs ∧
          (policy.window p (some a)).Contains row.snapshot.timestampMs) ↔
        policy.includeAnchor = true ∧ row.snapshot.timestampMs = a) := by
    intro row hrow
    constructor
    · rintro ⟨hlt, hin⟩
      rcases (FetchPolicy.contains_window_iff valid margin positive hlt).1 hin with hgt | hanchor
      · exact absurd (latest _ (mem_allRows.1 hrow).2.1 hlt) (Std.not_le.2 hgt)
      · exact hanchor
    · rintro ⟨hinclude, hat⟩
      rw [hat]
      exact ⟨before, (FetchPolicy.contains_window_iff valid margin positive before).2
        (.inr ⟨hinclude, rfl⟩)⟩
  have hfilter : (allRows es ss).filter (fun row => row.snapshot.timestampMs < p.beginningMs &&
        (policy.window p (some a)).Contains row.snapshot.timestampMs) =
      (allRows es ss).filter fun row => policy.includeAnchor && row.snapshot.timestampMs = a :=
    List.filter_congr fun row hmem => by
      rw [Bool.eq_iff_iff, Bool.and_eq_true, Bool.and_eq_true, decide_eq_true_eq,
        decide_eq_true_eq, decide_eq_true_eq]
      exact hrow row hmem
  rw [joined_eq_filter, List.filter_filter, hfilter]
  cases policy.includeAnchor
  · exact List.filter_eq_nil_iff.2 fun _ _ => Bool.false_ne_true
  · simp only [Bool.true_and, if_true]

end Tables

/-! ### Usage -/

namespace Observation

/-- The growth of a counter, scaled for the sampled time after the period only. -/
def usageSinceBeginning (o : Observation) (c : Counter) : Int64 :=
  let p := o.period
  if p.endingMs < o.last.timestampMs then
    ((o.growth c).mul (remainder (elapsed p.endingMs o.last.timestampMs)
      (elapsed p.beginningMs p.endingMs))).truncate
  else (o.growth c).truncate

/-- Samples that begin with the period, or later, are not scaled for the time before it. -/
theorem usage_of_begun {o : Observation} (h : o.period.beginningMs ≤ o.first.timestampMs)
    (c : Counter) : o.usage c = o.usageSinceBeginning c := by
  simp only [usage, usageSinceBeginning, if_neg (Std.not_lt.2 h)]
  split <;> rfl

end Observation

namespace Reporting

/-- A report that has found an anchor reads of the time before its period the snapshots at
    the anchor that have an entity, all of them, if the anchor is included, and otherwise
    none. Every observation of the report starts at the included anchor, or not before the
    period; without the anchor its usage is not scaled for any time before. A database
    without entities gives neither rows nor a report. -/
theorem rows_before_period {policy : FetchPolicy} {p : Period} {db : Tables} {a : Int64}
    (valid : p.Valid) (margin : 0 ≤ policy.minMarginMs)
    (found : ((latestBefore p.beginningMs).run db).1 = .ok (some a)) :
    (db.entities? = none →
      (summary policy p).run db = (.error (.store (.missingTable .entities)), db)) ∧
    ∀ es, db.entities? = some es → ∃ ss rows, db.snapshots? = some ss ∧
      (SnapshotStore.rowsIn (policy.window p (some a))).run db = (.ok rows, db) ∧
      (summary policy p).run db =
        (.ok (Report.ofObservations (Observation.gather (Row.sort rows) p).values), db) ∧
      rows.filter (·.snapshot.timestampMs < p.beginningMs) =
        (if policy.includeAnchor then
          (Tables.allRows es ss).filter (·.snapshot.timestampMs = a) else []) ∧
      ∀ o ∈ (Observation.gather (Row.sort rows) p).values,
        (policy.includeAnchor = true ∧ o.first.timestampMs = a ∨
          p.beginningMs ≤ o.first.timestampMs) ∧
        (policy.includeAnchor = false → ∀ c, o.usage c = o.usageSinceBeginning c) := by
  obtain ⟨ss, hss⟩ := exists_snapshots_of_run_latestBefore found
  obtain ⟨positive, before, latest⟩ := latest_of_run_latestBefore hss found
  have hanchor : (latestBefore p.beginningMs).run db = (.ok (some a), db) := by
    rw [run_latestBefore_tables hss] at found ⊢
    exact Prod.ext found rfl
  obtain ⟨entities?, snapshots?⟩ := db
  obtain rfl : snapshots? = some ss := hss
  constructor
  · rintro rfl
    rw [run_summary_of_valid policy valid, run_bind_of_ok (run_serve_of_ok hanchor)]
    rfl
  · rintro es rfl
    have hrows : (SnapshotStore.rowsIn (policy.window p (some a))).run
        (⟨some es, some ss⟩ : Tables) = _ := Tables.run_rowsIn _
    have hbefore : (Tables.joined es ss (policy.window p (some a))).filter _ = _ :=
      Tables.filter_joined_window valid margin positive before latest
    refine ⟨ss, _, rfl, hrows, run_summary_of_fetches valid ⟨_, _, hanchor, hrows⟩, hbefore,
      fun o ho => ?_⟩
    obtain ⟨⟨row, hrow, -, hfirst⟩, -, rfl⟩ := (Observation.census_gather _ p).spans o ho
    -- A row before the period is one of those at the anchor.
    have hstart : policy.includeAnchor = true ∧ o.first.timestampMs = a ∨
        o.period.beginningMs ≤ o.first.timestampMs := by
      rw [hfirst]
      by_cases hlt : row.snapshot.timestampMs < o.period.beginningMs
      · have hmem : row ∈ (Tables.joined es ss (policy.window o.period (some a))).filter
            (·.snapshot.timestampMs < o.period.beginningMs) :=
          List.mem_filter.2 ⟨hrow.mem, decide_eq_true hlt⟩
        rw [hbefore] at hmem
        split at hmem
        · next hinclude =>
          exact .inl ⟨hinclude, of_decide_eq_true (List.mem_filter.1 hmem).2⟩
        · exact absurd hmem List.not_mem_nil
      · exact .inr (Std.not_lt.1 hlt)
    refine ⟨hstart, fun hexclude c => Observation.usage_of_begun ?_ c⟩
    exact hstart.resolve_left fun h => by rw [hexclude] at h; cases h.1

/-- Two entities with a snapshot at the anchor, beside one that is not known, and an older
    snapshot: those two are read if the anchor is included, and nothing otherwise. -/
theorem rows_before_period_of_shared_anchor :
    let entity : String → Entity := fun x =>
      ⟨x, "vm", "small", "owner", "account", "cluster", "zone"⟩
    let db : Tables :=
      ⟨some [entity "a", entity "b"],
        some [⟨"b", 36000000, 4, 4⟩, ⟨"a", 36000000, 2, 2⟩, ⟨"a", 35999999, 1, 1⟩,
          ⟨"unknown", 36000000, 9, 9⟩, ⟨"a", 39000000, 6, 6⟩]⟩
    let policy : Bool → FetchPolicy := fun included => { includeAnchor := included }
    let p : Period := ⟨37800000, 39600000⟩
    p.Valid ∧ (∀ included, 0 ≤ (policy included).minMarginMs) ∧
      ((latestBefore p.beginningMs).run db).1 = .ok (some 36000000) ∧
      ∃ rows rows',
        (SnapshotStore.rowsIn ((policy true).window p (some 36000000))).run db =
          (.ok rows, db) ∧
        rows.filter (·.snapshot.timestampMs < p.beginningMs) =
          [⟨entity "a", ⟨"a", 36000000, 2, 2⟩⟩, ⟨entity "b", ⟨"b", 36000000, 4, 4⟩⟩] ∧
        (SnapshotStore.rowsIn ((policy false).window p (some 36000000))).run db =
          (.ok rows', db) ∧
        rows'.filter (·.snapshot.timestampMs < p.beginningMs) = [] ∧
        ∀ o ∈ (Observation.gather (Row.sort rows') p).values,
          o.usage .diskIo = o.usageSinceBeginning .diskIo := by
  intro entity db policy p
  have valid : p.Valid := by decide
  have margin : ∀ included, 0 ≤ (policy included).minMarginMs := by decide
  have windows : (Search.before p.beginningMs).windows =
      [⟨30600000, 37800000⟩, ⟨23400000, 37800000⟩] := by decide +kernel
  have found : ((latestBefore p.beginningMs).run db).1 = .ok (some 36000000) := by
    rw [latestBefore, windows]
    rfl
  obtain ⟨-, hincluded⟩ := rows_before_period valid (margin true) found
  obtain ⟨-, hexcluded⟩ := rows_before_period valid (margin false) found
  obtain ⟨_, rows, hss, hrows, -, hbefore, -⟩ := hincluded _ rfl
  obtain ⟨_, rows', -, hrows', -, hbefore', husage⟩ := hexcluded _ rfl
  obtain rfl := Option.some.inj hss
  refine ⟨valid, margin, found, rows, rows', hrows, hbefore.trans ?_, hrows', hbefore',
    fun o ho => (husage o ho).2 rfl .diskIo⟩
  rw [if_pos rfl, Tables.allRows, ← Row.sort_filter]
  exact List.mergeSort_of_pairwise (by decide)

end Reporting

end Metering
