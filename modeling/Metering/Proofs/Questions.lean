import Metering.Proofs.Searching
import Metering.Proofs.Summary

/-!
# What a report asks

A report that refuses its period asks nothing. Any other puts the questions of its
search, and unless that has failed it asks once more, for the rows of one window.
Nothing is assumed of the store: every question may fail, and may be answered
differently each time.

* `records_summary`: the questions of a report on a valid period;
* `summary_asks`: the questions of a report, in order, and its outcome.
-/

namespace Metering.Reporting

variable {σ : Type} [SnapshotStore σ]

/-- What a report on a valid period asks: the questions of its search, and then, if that
    has not failed, for the rows of one window. -/
theorem records_summary (policy : FetchPolicy) {p : Period} (valid : p.Valid) :
    Watched.Records (σ := σ) (summary policy p) (summary policy p) fun s =>
      searched (Search.before p.beginningMs).windows s ++
        Watched.askedThen (fun anchor _ => [.rowsIn (policy.window p anchor)])
          ((serve (latestBefore p.beginningMs)).run s) := by
  rw [summary, if_pos valid, summary, if_pos valid]
  refine (records_firstLatest _).serve.bind fun anchor => ?_
  intro s calls
  rw [(Watched.records_rowsIn _).serve.bind fun rows => Watched.records_pure _]
  simp

/-- A report refuses a period that does not begin before it ends, without a question.
    On any other it asks the questions of the search, and then for the rows of the window
    that follows from what was located, exactly if nothing has failed. The first
    failure is its outcome, and otherwise the report of the rows that it was given. -/
theorem summary_asks (policy : FetchPolicy) (p : Period) (s : σ) (calls : List Call) :
    ∃ outcome s' asked, (summary policy p).run s = (outcome, s') ∧
      (summary policy p).run (⟨s, calls⟩ : Watched σ) = (outcome, ⟨s', calls ++ asked⟩) ∧
      (¬p.Valid → outcome = .error (.invalidPeriod p) ∧ s' = s ∧ asked = []) ∧
      (p.Valid → ∀ windows, (Search.before p.beginningMs).windows = windows →
        (∀ e mid, located windows s = (.error e, mid) →
          outcome = .error (.store e) ∧ s' = mid ∧ asked = searched windows s) ∧
        ∀ anchor mid, located windows s = (.ok anchor, mid) →
          asked = searched windows s ++ [.rowsIn (policy.window p anchor)] ∧
          (∀ e after, (SnapshotStore.rowsIn (policy.window p anchor)).run mid = (.error e, after) →
            outcome = .error (.store e) ∧ s' = after) ∧
          (∀ rows after,
            (SnapshotStore.rowsIn (policy.window p anchor)).run mid = (.ok rows, after) →
            (∃ os, Observation.Census rows p os ∧ outcome = .ok (Report.ofObservations os)) ∧
              s' = after)) := by
  by_cases valid : p.Valid
  case neg =>
    refine ⟨.error (.invalidPeriod p), s, [], ?_, ?_, fun _ => ⟨rfl, rfl, rfl⟩,
      fun h => absurd h valid⟩
    · rw [summary, if_neg valid]
      rfl
    · rw [summary, if_neg valid, List.append_nil]
      rfl
  refine ⟨((summary policy p).run s).1, ((summary policy p).run s).2, _, rfl,
    records_summary policy valid s calls, fun h => absurd valid h, ?_⟩
  rintro - _ rfl
  have hsearch : (latestBefore p.beginningMs).run s =
    located (Search.before p.beginningMs).windows s := run_firstLatest_eq_located _ s
  have hsummary := run_summary_of_valid policy valid s
  refine ⟨fun e mid hlocated => ?_, fun anchor mid hlocated => ?_⟩
  · have hserve := run_serve_of_error (hsearch.trans hlocated)
    rw [run_bind_of_error hserve] at hsummary
    simp only [hsummary, hserve, Watched.askedThen, List.append_nil, and_self]
  · have hserve := run_serve_of_ok (hsearch.trans hlocated)
    rw [run_bind_of_ok hserve] at hsummary
    refine ⟨by simp only [hserve, Watched.askedThen], fun e after hfetch => ?_,
      fun rows after hfetch => ?_⟩
    · rw [hsummary, run_bind_of_error (run_serve_of_error hfetch)]
      exact ⟨rfl, rfl⟩
    · rw [hsummary, run_bind_of_ok (run_serve_of_ok hfetch), run_pure]
      exact ⟨⟨_, Observation.census_gather rows p, rfl⟩, rfl⟩

/-- A search in three windows whose second question fails, so that nothing is fetched;
    one whose second window shows an instant, before a fetch that fails; and an
    inverted period. -/
theorem summary_asks_until_failure :
    let p : Period := ⟨72000000, 75600000⟩
    let inverted : Period := ⟨75600000, 72000000⟩
    let first : Window := ⟨64800000, 72000000⟩
    let second : Window := ⟨57600000, 72000000⟩
    let broken : Script := { latest := [.ok none, .error "locked", .ok (some 50000000)] }
    let partly : Script := { latest := [.ok none, .ok (some 60000000)], rows := [.error "gone"] }
    p.Valid ∧ ¬inverted.Valid ∧
    (∃ s', (summary {} p).run (⟨broken, []⟩ : Watched Script) =
      (.error (.store (.unavailable "locked")), ⟨s', [.latestIn first, .latestIn second]⟩)) ∧
    (∃ s', (summary {} p).run (⟨partly, []⟩ : Watched Script) =
      (.error (.store (.unavailable "gone")),
        ⟨s', [.latestIn first, .latestIn second, .rowsIn ⟨60000000, 99600000⟩]⟩)) ∧
    (summary {} inverted).run (⟨partly, []⟩ : Watched Script) =
      (.error (.invalidPeriod inverted), ⟨partly, []⟩) := by
  intro p inverted first second broken partly
  have valid : p.Valid := by decide
  have invalid : ¬inverted.Valid := by decide
  have hwindows : (Search.before p.beginningMs).windows =
      [first, second, ⟨14400000, 72000000⟩] := by decide +kernel
  have hbroken : searched [first, second, ⟨14400000, 72000000⟩] broken =
      [.latestIn first, .latestIn second] := rfl
  have hpartly : searched [first, second, ⟨14400000, 72000000⟩] partly =
      [.latestIn first, .latestIn second] := rfl
  have hwindow : FetchPolicy.window {} p (some 60000000) = ⟨60000000, 99600000⟩ := by
    decide +kernel
  refine ⟨valid, invalid, ?_, ?_, ?_⟩
  · obtain ⟨outcome, s', asked, -, hrun, -, hvalid⟩ := summary_asks {} p broken []
    obtain ⟨rfl, -, rfl⟩ := (hvalid valid _ hwindows).1 _ _ rfl
    rw [hbroken] at hrun
    exact ⟨s', hrun⟩
  · obtain ⟨outcome, s', asked, -, hrun, -, hvalid⟩ := summary_asks {} p partly []
    obtain ⟨rfl, hfetch, -⟩ := (hvalid valid _ hwindows).2 _ _ rfl
    obtain ⟨rfl, -⟩ := hfetch _ _ rfl
    rw [hpartly, hwindow] at hrun
    exact ⟨s', hrun⟩
  · obtain ⟨outcome, s', asked, -, hrun, hinvalid, -⟩ := summary_asks {} inverted partly []
    obtain ⟨rfl, rfl, rfl⟩ := hinvalid invalid
    exact hrun

end Metering.Reporting
