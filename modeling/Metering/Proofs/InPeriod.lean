import Metering.Proofs.Searching
import Metering.Proofs.Summary

/-!
# What a report does not miss

The window of a report is made of what the search happens to find and of a
margin that is the end of a chain of saturating operations. Neither bound cuts
into the period: the anchor, if there is one, comes before the period, and the
margin is not negative. So every snapshot of a known entity within the period is
read, and its entity is counted, once.

* `FetchPolicy.endingMs_le_beforeMs`: a window does not end within its period;
* `FetchPolicy.contains_window`: the window of a report contains its period;
* `summary_counts_in_period`: what is read and counted of a period.
-/

namespace Metering

namespace Saturation

theorem sub_le_self (a : Int64) {b : Int64} (hb : 0 ≤ b) : sub a b ≤ a := by
  rw [Int64.le_iff_toInt_le, Int64.toInt_zero] at hb
  have := a.le_toInt
  have := a.toInt_lt
  rw [Int64.le_iff_toInt_le, toInt_sub, clamp]
  omega

end Saturation

/-- A window with a least margin does not end before its period does: the product may have
    stopped anywhere, the margin is not below the least one. -/
theorem FetchPolicy.endingMs_le_beforeMs {policy : FetchPolicy} (h : 0 ≤ policy.minMarginMs)
    (p : Period) (anchor : Option Int64) : p.endingMs ≤ (policy.window p anchor).beforeMs :=
  Saturation.le_add_right _ (Std.le_trans h Std.right_le_max)

/-- The window of a report contains the instants of its period that come after the
    epoch, whatever the anchor, if only that lies before the period. -/
theorem FetchPolicy.contains_window {policy : FetchPolicy} {p : Period} {anchor : Option Int64}
    {t : Int64} (margin : 0 ≤ policy.minMarginMs) (before : ∀ a ∈ anchor, a < p.beginningMs)
    (positive : 0 < t) (begun : p.beginningMs ≤ t) (notEnded : t < p.endingMs) :
    (policy.window p anchor).Contains t := by
  have hanchor : anchor.getD 0 < t := by
    cases anchor with
    | none => exact positive
    | some a => exact Std.lt_of_lt_of_le (before a rfl) begun
  constructor
  · rw [window]
    split
    · exact Std.lt_of_le_of_lt (Saturation.sub_le_self _ (by decide)) hanchor
    · exact hanchor
  · exact Std.lt_of_lt_of_le notEnded (endingMs_le_beforeMs margin p anchor)

namespace Reporting

/-- A report on a valid period, whatever its anchor, reads every snapshot of a known
    entity that lies in the period and after the epoch. The entity's identity has
    one observation among those of the report, and this one adds one to the number
    of entities of its kind in its group, and to no other number. -/
theorem summary_counts_in_period {policy : FetchPolicy} {p : Period} (valid : p.Valid)
    (margin : 0 ≤ policy.minMarginMs) (es : List Entity) (ss : List Snapshot) :
    ∃ anchor rows report,
      (latestBefore p.beginningMs).run (⟨some es, some ss⟩ : Tables) =
        (.ok anchor, ⟨some es, some ss⟩) ∧
      (SnapshotStore.rowsIn (policy.window p anchor)).run (⟨some es, some ss⟩ : Tables) =
        (.ok rows, ⟨some es, some ss⟩) ∧
      (summary policy p).run (⟨some es, some ss⟩ : Tables) = (.ok report, ⟨some es, some ss⟩) ∧
      ∀ s ∈ ss, 0 < s.timestampMs → p.beginningMs ≤ s.timestampMs → s.timestampMs < p.endingMs →
        ∀ e ∈ es, e.identity = s.identity → ⟨e, s⟩ ∈ rows ∧
          ∃ o others, Observation.Census rows p (o :: others) ∧
            report = Report.ofObservations (o :: others) ∧
            o.entity ∈ es ∧ o.entity.identity = s.identity ∧
            (∀ o' ∈ others, o'.entity.identity ≠ s.identity) ∧
            ∀ k resourceType, report.count k resourceType =
              (Report.ofObservations others).count k resourceType +
                if k = o.entity.dimensions ∧ resourceType = o.entity.resourceType
                then 1 else 0 := by
  have hss : (⟨some es, some ss⟩ : Tables).snapshots? = some ss := rfl
  have hanchor := run_latestBefore_tables hss p.beginningMs
  generalize (Search.before p.beginningMs).windows.findSome? _ = anchor at hanchor
  have hbefore : ∀ a ∈ anchor, a < p.beginningMs := fun a ha =>
    lt_of_run_latestBefore_tables hss (by rw [hanchor, ha])
  have hrows : (SnapshotStore.rowsIn (policy.window p anchor)).run
      (⟨some es, some ss⟩ : Tables) = _ := Tables.run_rowsIn _
  refine ⟨anchor, _, _, hanchor, hrows,
    run_summary_of_fetches valid ⟨anchor, _, hanchor, hrows⟩, ?_⟩
  intro s hs positive begun notEnded e he hid
  have hmem : ⟨e, s⟩ ∈ Tables.joined es ss (policy.window p anchor) :=
    Tables.mem_joined.2 ⟨he, hs, hid.symm,
      FetchPolicy.contains_window margin hbefore positive begun notEnded⟩
  have hcensus := Observation.census_gather (Tables.joined es ss (policy.window p anchor)) p
  obtain ⟨o, others, hperm, hentity, hothers⟩ := hcensus.exists_cons hmem
  have hcensus := hcensus.of_perm hperm
  refine ⟨hmem, o, others, hcensus, Report.ofObservations_perm hperm, ?_, hentity.trans hid,
    fun o' ho' => hid ▸ hothers o' ho', fun k resourceType => ?_⟩
  · -- The observation has its entity from a row that was read.
    obtain ⟨row, hrow, hrowEntity, -⟩ := (hcensus.spans o List.mem_cons_self).first
    rw [hrowEntity]
    exact (Tables.mem_joined.1 hrow.mem).1
  · rw [Report.ofObservations_perm hperm, Report.ofObservations_cons, Report.count_charge]

/-- A period that begins before the epoch, where no search finds anything and the
    margin stops at the lower end of the range before it is raised to the least one. -/
theorem summary_counts_from_before_epoch :
    let e : Entity := ⟨"a", "vm", "small", "owner", "account", "cluster", "zone"⟩
    let db : Tables := ⟨some [e], some [⟨"a", 0, 0, 0⟩, ⟨"a", 3, 1, 1⟩]⟩
    let policy : FetchPolicy := { marginMultiplier := 0x7FFFFFFFFFFFFFFF }
    let p : Period := ⟨-7, 10⟩
    p.Valid ∧ 0 ≤ policy.minMarginMs ∧ ∃ anchor rows report others,
      (latestBefore p.beginningMs).run db = (.ok anchor, db) ∧
      (SnapshotStore.rowsIn (policy.window p anchor)).run db = (.ok rows, db) ∧
      (summary policy p).run db = (.ok report, db) ∧ ⟨e, ⟨"a", 3, 1, 1⟩⟩ ∈ rows ∧
      report.count e.dimensions "small" =
        (Report.ofObservations others).count e.dimensions "small" + 1 := by
  intro e db policy p
  have valid : p.Valid := by decide
  have margin : 0 ≤ policy.minMarginMs := by decide
  obtain ⟨anchor, rows, report, hanchor, hrows, hrun, hcounted⟩ :=
    summary_counts_in_period valid margin [e] [⟨"a", 0, 0, 0⟩, ⟨"a", 3, 1, 1⟩]
  obtain ⟨hmem, o, others, -, -, ho, -, -, hcount⟩ := hcounted ⟨"a", 3, 1, 1⟩
    (List.mem_cons_of_mem _ List.mem_cons_self) (by decide) (by decide) (by decide)
    e List.mem_cons_self rfl
  refine ⟨valid, margin, anchor, rows, report, others, hanchor, hrows, hrun, hmem, ?_⟩
  rw [hcount, List.mem_singleton.1 ho]
  rfl

end Reporting

end Metering
