import Metering.Proofs.Asking
import Metering.Proofs.Gathering
import Metering.Proofs.Summing
import Metering.Store.Script

/-!
# The report of a store's answers

A report asks its store for an anchor and then for the rows of one window.
Whatever rows come back, in whatever order, the report is that of one
observation for each of their identities.

* `Fetches`: the answers of a store to the questions of a report;
* `summary_of_census`: the report of the rows, for any order of the observations
  and any interleaving of the rows.
-/

namespace Metering.Reporting

variable {σ τ : Type} [SnapshotStore σ] [SnapshotStore τ]

/-- The store answers the questions of a report: the search finds an anchor or
    none, and the fetch, whose window follows from that, gives the rows. -/
def Fetches (policy : FetchPolicy) (p : Period) (s : σ) (rows : List Row) (s' : σ) : Prop :=
  ∃ anchor mid, (latestBefore p.beginningMs).run s = (.ok anchor, mid) ∧
    (SnapshotStore.rowsIn (policy.window p anchor)).run mid = (.ok rows, s')

theorem run_summary_of_valid (policy : FetchPolicy) {p : Period} (valid : p.Valid) (s : σ) :
    (summary policy p).run s = (serve (latestBefore p.beginningMs) >>= fun anchor =>
      serve (SnapshotStore.rowsIn (policy.window p anchor)) >>= fun rows =>
        pure (Report.ofObservations (Observation.gather (Row.sort rows) p).values)).run s := by
  rw [summary, if_pos valid]

/-- The report is that of the observations which are gathered from the sorted rows. -/
theorem run_summary_of_fetches {policy : FetchPolicy} {p : Period} {s s' : σ} {rows : List Row}
    (valid : p.Valid) (fetched : Fetches policy p s rows s') :
    (summary policy p).run s =
      (.ok (Report.ofObservations (Observation.gather (Row.sort rows) p).values), s') := by
  obtain ⟨anchor, mid, hanchor, hrows⟩ := fetched
  rw [run_summary_of_valid policy valid, run_bind_of_ok (run_serve_of_ok hanchor),
    run_bind_of_ok (run_serve_of_ok hrows), run_pure]

/-- The report of a store's rows is that of one observation for each identity among
    them, from its earliest row to its latest, charged in whatever order: each of its
    sums is the exact one of these observations, stopped once. It is the same for another
    store, and another policy, that gives the rows in another interleaving. -/
theorem summary_of_census {policy : FetchPolicy} {p : Period} {s s' : σ} {rows : List Row}
    (valid : p.Valid) (fetched : Fetches policy p s rows s') :
    ∃ report, (summary policy p).run s = (.ok report, s') ∧
      (∃ os, Observation.Census rows p os) ∧
      (∀ os, Observation.Census rows p os →
        Report.ofObservations os = report ∧ report.Exact os) ∧
      (∀ os, os.Perm (Observation.gather (Row.sort rows) p).values →
        Report.ofObservations os = report) ∧
      ∀ (policy' : FetchPolicy) (t t' : τ) (rows' : List Row), Fetches policy' p t rows' t' →
        Row.Rearranged rows rows' → (summary policy' p).run t = (.ok report, t') := by
  have hcensus := Observation.census_gather rows p
  refine ⟨_, run_summary_of_fetches valid fetched, ⟨_, hcensus⟩, fun os hos => ?_,
    fun os hos => Report.ofObservations_perm hos, fun policy' t t' rows' fetched' hrows => ?_⟩
  · have hsame : Report.ofObservations os = _ := Report.ofObservations_perm (hos.perm hcensus)
    exact ⟨hsame, hsame ▸ Report.exact_ofObservations os⟩
  · rw [hrows.sort_eq]
    exact run_summary_of_fetches valid fetched'

/-! ### Rows in two interleavings -/

/-- A sample of the counters of a virtual machine. -/
def sample (identity resourceType : String) (timestampMs megs : Int64) : Row where
  entity := ⟨identity, "vm", resourceType, "owner", "account", "cluster", "zone"⟩
  snapshot := ⟨identity, timestampMs, megs, megs⟩

/-- Two samples of one machine at one instant, the later one under another type,
    an earlier sample behind them, and another machine in between. -/
def interleaved : List Row :=
  [sample "a" "small" 11000000 40, sample "b" "small" 10900000 1, sample "a" "large" 11000000 50,
    sample "a" "large" 10850000 30]

/-- The same samples, the other machine first. -/
def separated : List Row :=
  [sample "b" "small" 10900000 1, sample "a" "small" 11000000 40, sample "a" "large" 11000000 50,
    sample "a" "large" 10850000 30]

/-- A store with an anchor and the interleaved rows, and one without an anchor that
    has the separated rows, lead to one report. -/
theorem summary_interleaved_eq_separated :
    Period.Valid ⟨10800000, 11100000⟩ ∧
    ∃ report,
      ((summary {} ⟨10800000, 11100000⟩).run
        ({ latest := [.ok (some 9000000)], rows := [.ok interleaved] } : Script)).1 =
          .ok report ∧
      ((summary { includeAnchor := true } ⟨10800000, 11100000⟩).run
        ({ rows := [.ok separated] } : Script)).1 = .ok report := by
  have valid : Period.Valid ⟨10800000, 11100000⟩ := by decide
  have windows : (Search.before 10800000).windows = [⟨3600000, 10800000⟩] := by decide +kernel
  have fetched : Fetches {} ⟨10800000, 11100000⟩
      ({ latest := [.ok (some 9000000)], rows := [.ok interleaved] } : Script) interleaved
      { calls := [.latestIn ⟨3600000, 10800000⟩, .rowsIn ⟨9000000, 14700000⟩] } := by
    refine ⟨some 9000000,
      { rows := [.ok interleaved], calls := [.latestIn ⟨3600000, 10800000⟩] }, ?_, rfl⟩
    rw [latestBefore, windows]
    rfl
  have fetched' : Fetches { includeAnchor := true } ⟨10800000, 11100000⟩
      ({ rows := [.ok separated] } : Script) separated
      { calls := [.latestIn ⟨3600000, 10800000⟩, .rowsIn ⟨-1, 32700000⟩] } := by
    refine ⟨none,
      { rows := [.ok separated], calls := [.latestIn ⟨3600000, 10800000⟩] }, ?_, rfl⟩
    rw [latestBefore, windows]
    rfl
  have rearranged : Row.Rearranged interleaved separated := by
    refine ⟨by decide, fun x t => ?_⟩
    simp only [interleaved, separated, List.filter_cons, Row.At, sample]
    by_cases ha : "a" = x
    · simp [← ha]
    · simp [ha]
  obtain ⟨report, hrun, -, -, -, hsame⟩ := summary_of_census (τ := Script) valid fetched
  exact ⟨valid, report, congrArg Prod.fst hrun,
    congrArg Prod.fst (hsame _ _ _ _ fetched' rearranged)⟩

end Metering.Reporting
