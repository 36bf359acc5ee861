import Metering.Proofs.Records
import Metering.Proofs.Requests
import Metering.Proofs.Searching
import Metering.Proofs.Summary

/-!
# What the service answers

A client sees of a report and of a purge what reporting gives: the status says which
way it went, and the content is the report row by row, the counts, or the wording of
the failure. A report changes nothing, and a purge what it changes anyway.

* `Reporting.FailsToFetch`: a store that fails to answer a report's questions;
* `Tables.exists_failsToFetch_iff`: which databases fail to do so;
* `Report.Lists`: the rows that a report is made of, from which it is made again;
* `Http.respond_of_asks`: the response to a request that is read as a call;
* `Http.SaysUsage`, `Http.SaysPurge`: what a response says of a report, and of a purge;
* `Http.respond_agrees`: responses agree with reporting, whatever the database.
-/

namespace Metering

/-! ### Reports that fail -/

namespace Reporting

variable {σ : Type} [SnapshotStore σ] {policy : FetchPolicy} {p : Period} {s s' : σ}
  {cause : StoreError}

/-- The store does not answer the questions of a report: the search for an anchor
    fails, or the fetch behind it does. -/
inductive FailsToFetch (policy : FetchPolicy) (p : Period) (s : σ) (cause : StoreError)
    (s' : σ) : Prop
  | search : (latestBefore p.beginningMs).run s = (.error cause, s') →
      FailsToFetch policy p s cause s'
  | rows {anchor : Option Int64} {mid : σ} :
      (latestBefore p.beginningMs).run s = (.ok anchor, mid) →
      (SnapshotStore.rowsIn (policy.window p anchor)).run mid = (.error cause, s') →
      FailsToFetch policy p s cause s'

theorem fetches_or_fails (policy : FetchPolicy) (p : Period) (s : σ) :
    (∃ rows s', Fetches policy p s rows s') ∨ ∃ cause s', FailsToFetch policy p s cause s' := by
  rcases hsearch : (latestBefore p.beginningMs).run s with ⟨cause | anchor, mid⟩
  · exact .inr ⟨cause, mid, .search hsearch⟩
  · rcases hrows : (SnapshotStore.rowsIn (policy.window p anchor)).run mid with ⟨cause | rows, s'⟩
    · exact .inr ⟨cause, s', .rows hsearch hrows⟩
    · exact .inl ⟨rows, s', anchor, mid, hsearch, hrows⟩

/-- The failure of a store is passed on. -/
theorem run_summary_of_failsToFetch (valid : p.Valid) (h : FailsToFetch policy p s cause s') :
    (summary policy p).run s = (.error (.store cause), s') := by
  rw [run_summary_of_valid policy valid]
  cases h with
  | search hsearch => exact run_bind_of_error (run_serve_of_error hsearch)
  | rows hsearch hrows =>
    rw [run_bind_of_ok (run_serve_of_ok hsearch), run_bind_of_error (run_serve_of_error hrows)]

/-- An invalid period is refused before the store is asked anything. -/
theorem run_summary_of_not_valid (policy : FetchPolicy) (h : ¬p.Valid) (s : σ) :
    (summary policy p).run s = (.error (.invalidPeriod p), s) := by
  rw [summary, if_neg h]
  rfl

/-- The period of a report is invalid, or the store fails to answer, or there is a report. -/
theorem run_summary_cases (policy : FetchPolicy) (p : Period) (s : σ) :
    (¬p.Valid ∧ (summary policy p).run s = (.error (.invalidPeriod p), s)) ∨
    (p.Valid ∧ ∃ cause s', FailsToFetch policy p s cause s' ∧
      (summary policy p).run s = (.error (.store cause), s')) ∨
    (p.Valid ∧ ∃ report s', (summary policy p).run s = (.ok report, s')) := by
  by_cases valid : p.Valid
  · rcases fetches_or_fails policy p s with ⟨rows, s', h⟩ | ⟨cause, s', h⟩
    · exact .inr (.inr ⟨valid, _, s', run_summary_of_fetches valid h⟩)
    · exact .inr (.inl ⟨valid, cause, s', h, run_summary_of_failsToFetch valid h⟩)
  · exact .inl ⟨valid, run_summary_of_not_valid policy valid s⟩

end Reporting

namespace Tables

open Reporting

/-- Rows cannot be read unless there are both tables. -/
theorem run_rowsIn_of_missing {db : Tables}
    (h : db.entities? = none ∨ db.snapshots? = none) (w : Window) :
    ∃ cause, (SnapshotStore.rowsIn w).run db = (.error cause, db) := by
  obtain ⟨_ | es, _ | ss⟩ := db
  · exact ⟨.missingTable .entities, rfl⟩
  · exact ⟨.missingTable .entities, rfl⟩
  · exact ⟨.missingTable .snapshots, rfl⟩
  · simp at h

/-- A database fails to answer the questions of a report just if a table is missing,
    also where the search for an anchor does not come to look at one. -/
theorem exists_failsToFetch_iff (policy : FetchPolicy) (p : Period) (db : Tables) :
    (∃ cause db', FailsToFetch policy p db cause db') ↔
      db.entities? = none ∨ db.snapshots? = none := by
  constructor
  · rintro ⟨cause, db', h⟩
    obtain ⟨_ | es, _ | ss⟩ := db
    · exact .inl rfl
    · exact .inl rfl
    · exact .inr rfl
    · -- With both tables neither question fails.
      have hsnapshots : (⟨some es, some ss⟩ : Tables).snapshots? = some ss := rfl
      have hsearch := run_latestBefore_tables hsnapshots p.beginningMs
      cases h with
      | search hfailed =>
        rw [hsearch] at hfailed
        cases hfailed
      | rows hfound hfailed =>
        rw [hsearch] at hfound
        cases hfound
        rw [run_rowsIn] at hfailed
        cases hfailed
  · intro hmissing
    rcases fetches_or_fails policy p db with ⟨rows, db', anchor, mid, hsearch, hrows⟩ | h
    · obtain rfl := (keeps_latestBefore _).reads.eq hsearch
      obtain ⟨cause, hfailed⟩ := run_rowsIn_of_missing hmissing (policy.window p anchor)
      rw [hfailed] at hrows
      cases hrows
    · exact h

end Tables

/-! ### Rows of a report -/

/-- The owner decides which group comes first, then the account, then the cluster,
    then the zone. -/
def Dimensions.Before (a b : Dimensions) : Prop :=
  a.ownerId < b.ownerId ∨ a.ownerId = b.ownerId ∧
    (a.accountId < b.accountId ∨ a.accountId = b.accountId ∧
      (a.clusterName < b.clusterName ∨ a.clusterName = b.clusterName ∧
        a.availabilityZone < b.availabilityZone))

theorem Dimensions.before_of_compare {a b : Dimensions} (h : compare a b = .lt) : a.Before b := by
  have parts : ((compare a.ownerId b.ownerId).then <| (compare a.accountId b.accountId).then <|
      (compare a.clusterName b.clusterName).then
        (compare a.availabilityZone b.availabilityZone)) = .lt := h
  simp only [Ordering.then_eq_lt, Std.LawfulEqOrd.compare_eq_iff_eq] at parts
  have hlt : ∀ s t : String, compare s t = .lt → s < t := fun _ _ => compareOfLessAndEq_eq_lt.1
  exact parts.imp (hlt _ _) <| And.imp_right <| Or.imp (hlt _ _) <| And.imp_right <|
    Or.imp (hlt _ _) <| And.imp_right (hlt _ _)

namespace Report

/-- The rows are those of the report: one for each of its groups, in the order of the
    groups, and the report is made again from them. -/
structure Lists (r : Report) (rows : List Row) : Prop where
  /-- Every row is before those behind it. -/
  ascending : rows.Pairwise (·.dimensions.Before ·.dimensions)
  /-- The rows are the groups of the report with their totals. -/
  mem_iff : ∀ row, row ∈ rows ↔ r[row.dimensions]? = some row.totals
  /-- The rows make the report. -/
  remade : rows.foldl (fun report row => report.insert row.dimensions row.totals) ∅ = r

theorem lists_rows (r : Report) : r.Lists r.rows where
  ascending := by
    rw [rows, List.pairwise_map]
    exact Std.ExtTreeMap.ordered_keys_toList.imp Dimensions.before_of_compare
  mem_iff := by
    rintro ⟨dimensions, totals⟩
    rw [rows, List.mem_map, ← Std.ExtTreeMap.mem_toList_iff_getElem?_eq_some]
    constructor
    · rintro ⟨_, hmem, ⟨⟩⟩
      exact hmem
    · intro hmem
      exact ⟨_, hmem, rfl⟩
  remade := by
    rw [rows, List.foldl_map]
    exact foldl_insert_toList r

end Report

/-! ### Responses -/

namespace Http

variable {σ : Type} [SnapshotStore σ]

/-- A request that is read as a call is responded to with the answer to the call. -/
theorem respond_of_asks {r : Request} {c : Api.Call} (h : r.Asks c) (policy : FetchPolicy)
    (s : σ) : (respond policy r).run s =
      (.ofAnswer ((Api.answer policy c).run s).1, ((Api.answer policy c).run s).2) := by
  obtain ⟨hhead, e, hpath, hmethod, hcall⟩ := h
  have hoptions : r.method ≠ "OPTIONS" := by
    intro heq
    -- No endpoint has it among its methods.
    rw [heq] at hmethod
    cases e <;> simp [Endpoint.methods] at hmethod
  simp only [respond, hpath, if_neg hoptions, if_pos hmethod, if_neg hhead, Endpoint.respond,
    hcall]
  rfl

/-- The period, as it is sent. -/
def sentPeriod (p : Period) : Document :=
  .record [("beginningMs", .integer p.beginningMs.toInt), ("endingMs", .integer p.endingMs.toInt)]

/-- The counts of a purge, as they are sent. -/
def sentCounts (counts : PurgeCounts) : Document :=
  .record [("snapshots", .integer counts.snapshots.toNat),
    ("attributes", .integer counts.entities.toNat)]

/-- The content that words what went wrong. -/
def wording (message : String) : Payload :=
  .content (.document (.record [("error", .text message)]))

/-- The response says what a report on a store gives. -/
structure SaysUsage (policy : FetchPolicy) (p : Period) (s : σ) (response : Response) : Prop where
  /-- It is the client's fault just if the period does not begin before it ends. -/
  invalid : response.status = 400 ↔ p.endingMs ≤ p.beginningMs
  /-- Otherwise it is the service's fault just if the store fails to answer. -/
  failed : response.status = 500 ↔
    p.beginningMs < p.endingMs ∧ ∃ cause s', Reporting.FailsToFetch policy p s cause s'
  /-- In all other cases there is a report. -/
  reported : response.status = 200 ↔ ∃ report s',
    (Reporting.summary policy p).run s = (.ok report, s')
  /-- The wording names the period that is invalid. -/
  invalid_wording : p.endingMs ≤ p.beginningMs →
    response.payload = wording (ReportError.invalidPeriod p).message
  /-- The wording names what is wrong with the store. -/
  failed_wording : ∀ cause s', p.beginningMs < p.endingMs →
    Reporting.FailsToFetch policy p s cause s' → response.payload = wording cause.message
  /-- The content is the period and the rows of the report, which are read back. -/
  rows : ∀ report s', (Reporting.summary policy p).run s = (.ok report, s') →
    ∃ rows : List Report.Row, report.Lists rows ∧
      (∀ row ∈ rows, Report.Row.decode row.document = .ok row) ∧
      Period.decode (sentPeriod p) = .ok p ∧
      response.payload = .content (.document (.record [("period", sentPeriod p),
        ("summaries", .list (rows.map Report.Row.document))]))

/-- The response says what a purge of a store gives. -/
structure SaysPurge (cutoffMs : Int64) (s : σ) (response : Response) : Prop where
  /-- The purge succeeds. -/
  purged : response.status = 200 ↔ ∃ counts s',
    (Reporting.purge cutoffMs).run s = (.ok counts, s')
  /-- The purge fails. -/
  failed : response.status = 500 ↔ ∃ e s', (Reporting.purge cutoffMs).run s = (.error e, s')
  /-- The content is the counts, which are read back. -/
  counts : ∀ counts s', (Reporting.purge cutoffMs).run s = (.ok counts, s') →
    PurgeCounts.decode (sentCounts counts) = .ok counts ∧
      response.payload = .content (.document (sentCounts counts))
  /-- The wording is that of the failure. -/
  failed_wording : ∀ e s', (Reporting.purge cutoffMs).run s = (.error e, s') →
    response.payload = wording e.message

theorem run_answer_usage (policy : FetchPolicy) (p : Period) (s : σ) :
    (Api.answer policy (.usage p)).run s =
      (Api.answered (Api.usageDocument p) ((Reporting.summary policy p).run s).1,
        ((Reporting.summary policy p).run s).2) := rfl

theorem run_answer_purge (policy : FetchPolicy) (cutoffMs : Int64) (s : σ) :
    (Api.answer policy (.purge cutoffMs)).run s =
      (Api.answered PurgeCounts.document ((Reporting.purge cutoffMs).run s).1,
        ((Reporting.purge cutoffMs).run s).2) := rfl

theorem saysUsage (policy : FetchPolicy) (p : Period) (s : σ) :
    SaysUsage policy p s (.ofAnswer (Api.answered (Api.usageDocument p)
      ((Reporting.summary policy p).run s).1)) := by
  rcases Reporting.run_summary_cases policy p s with
    ⟨invalid, hrun⟩ | ⟨valid, cause, s', hfails, hrun⟩ | ⟨valid, report, s', hrun⟩
  · rw [hrun]
    exact {
      invalid := ⟨fun _ => Std.not_lt.1 invalid, fun _ => rfl⟩
      failed := ⟨nofun, fun h => absurd h.1 invalid⟩
      reported := ⟨nofun, fun ⟨_, _, h⟩ => absurd h (ne_ok_of_error hrun)⟩
      invalid_wording := fun _ => rfl
      failed_wording := fun _ _ h => absurd h invalid
      rows := fun _ _ h => absurd h (ne_ok_of_error hrun) }
  · have hnot : ¬p.endingMs ≤ p.beginningMs := Std.not_le.2 valid
    rw [hrun]
    exact {
      invalid := ⟨nofun, fun h => absurd h hnot⟩
      failed := ⟨fun _ => ⟨valid, cause, s', hfails⟩, fun _ => rfl⟩
      reported := ⟨nofun, fun ⟨_, _, h⟩ => absurd h (ne_ok_of_error hrun)⟩
      invalid_wording := fun h => absurd h hnot
      failed_wording := fun _ _ _ h => by
        -- A store fails to answer for one cause only.
        rw [Reporting.run_summary_of_failsToFetch valid h] at hrun
        cases hrun
        rfl
      rows := fun _ _ h => absurd h (ne_ok_of_error hrun) }
  · have hnot : ¬p.endingMs ≤ p.beginningMs := Std.not_le.2 valid
    have hnever : ∀ cause s', ¬Reporting.FailsToFetch policy p s cause s' := fun _ _ h =>
      ne_ok_of_error (Reporting.run_summary_of_failsToFetch valid h) hrun
    rw [hrun]
    exact {
      invalid := ⟨nofun, fun h => absurd h hnot⟩
      failed := ⟨nofun, fun ⟨_, _, _, h⟩ => absurd h (hnever _ _)⟩
      reported := ⟨fun _ => ⟨report, s', hrun⟩, fun _ => rfl⟩
      invalid_wording := fun h => absurd h hnot
      failed_wording := fun _ _ _ h => absurd h (hnever _ _)
      rows := fun _ _ h => by
        rw [hrun] at h
        cases h
        exact ⟨report.rows, report.lists_rows, fun row _ => row.decode_document,
          (Period.writes.codec _ _).decode_document p, rfl⟩ }

theorem saysPurge (cutoffMs : Int64) (s : σ) :
    SaysPurge cutoffMs s (.ofAnswer (Api.answered PurgeCounts.document
      ((Reporting.purge cutoffMs).run s).1)) := by
  rcases hrun : (Reporting.purge cutoffMs).run s with ⟨e | counts, s'⟩
  · -- A purge fails for no other reason than its store.
    obtain ⟨cause, -, rfl⟩ := Reporting.exists_of_run_serve hrun
    exact {
      purged := ⟨nofun, fun ⟨_, _, h⟩ => absurd h (ne_ok_of_error hrun)⟩
      failed := ⟨fun _ => ⟨_, s', hrun⟩, fun _ => rfl⟩
      counts := fun _ _ h => absurd h (ne_ok_of_error hrun)
      failed_wording := fun _ _ h => by
        rw [hrun] at h
        cases h
        rfl }
  · exact {
      purged := ⟨fun _ => ⟨counts, s', hrun⟩, fun _ => rfl⟩
      failed := ⟨nofun, fun ⟨_, _, h⟩ => absurd hrun (ne_ok_of_error h)⟩
      counts := fun _ _ h => by
        rw [hrun] at h
        cases h
        exact ⟨(PurgeCounts.writes.codec _ _).decode_document counts, rfl⟩
      failed_wording := fun _ _ h => absurd hrun (ne_ok_of_error h) }

/-- The service on the web says what reporting gives, whatever the database and the
    policy. A request for the usage of a period, of which there is one for every
    period, leaves the database as it was. One to purge what is before an instant, of
    which there is one for every instant, does to the database what a purge does:
    nothing if it fails. -/
theorem respond_agrees (policy : FetchPolicy) (db : Tables) :
    (∀ p : Period, (Request.ofPeriod p).Asks (.usage p) ∧
      ∀ r : Request, r.Asks (.usage p) → ∃ response,
        (respond policy r).run db = (response, db) ∧ SaysUsage policy p db response) ∧
    (∀ cutoffMs : Int64, (Request.ofCutoff cutoffMs).Asks (.purge cutoffMs) ∧
      (∀ e db', (Reporting.purge cutoffMs).run db = (.error e, db') → db' = db) ∧
      ∀ r : Request, r.Asks (.purge cutoffMs) → ∃ response,
        (respond policy r).run db = (response, ((Reporting.purge cutoffMs).run db).2) ∧
          SaysPurge cutoffMs db response) := by
  refine ⟨fun p => ⟨Request.asks_ofPeriod p, fun r hr => ?_⟩,
    fun cutoffMs => ⟨Request.asks_ofCutoff cutoffMs, ?_, fun r hr => ?_⟩⟩
  · refine ⟨_, ?_, saysUsage policy p db⟩
    rw [respond_of_asks hr, run_answer_usage, (Tables.keeps_summary policy p).reads db]
  · exact Connection.undoes_serve (Tables.undoes_purge cutoffMs) db
  · refine ⟨_, ?_, saysPurge cutoffMs db⟩
    rw [respond_of_asks hr, run_answer_purge]

/-- A machine with two samples is reported and purged. Without the table of entities a
    period that ends before it begins is still what is wrong with a request; a report of a
    valid one, and a purge, fail and leave the samples as they are. -/
theorem respond_agrees_with_and_without_entities :
    let snapshots : List Snapshot := [⟨"a", 10, 1, 0⟩, ⟨"a", 20, 5, 0⟩]
    let entity : Entity := ⟨"a", "vm", "small", "owner", "account", "cluster", "zone"⟩
    let db : Tables := ⟨some [entity], some snapshots⟩
    let broken : Tables := ⟨none, some snapshots⟩
    (Request.ofPeriod ⟨10, 30⟩).Asks (.usage ⟨10, 30⟩) ∧
    (Request.ofPeriod ⟨30, 10⟩).Asks (.usage ⟨30, 10⟩) ∧
    (Request.ofCutoff 20).Asks (.purge 20) ∧
    (∃ response period, (respond {} (.ofPeriod ⟨10, 30⟩)).run db = (response, db) ∧
      response.status = 200 ∧ (∃ rows : List Report.Row, response.payload =
        .content (.document (.record [("period", period),
          ("summaries", .list (rows.map Report.Row.document))]))) ∧
      period = .record [("beginningMs", .integer 10), ("endingMs", .integer 30)] ∧
      Period.decode period = .ok ⟨10, 30⟩) ∧
    (∃ response, (respond {} (.ofPeriod ⟨30, 10⟩)).run broken = (response, broken) ∧
      response.status = 400 ∧
      response.payload = wording "invalid period [30, 10]: duration must be > 0") ∧
    (∃ response, (respond {} (.ofPeriod ⟨10, 30⟩)).run broken = (response, broken) ∧
      response.status = 500) ∧
    (∃ response counts, (respond {} (.ofCutoff 20)).run db =
        (response, ⟨some [entity], some [⟨"a", 20, 5, 0⟩]⟩) ∧
      response.status = 200 ∧ response.payload = .content (.document counts) ∧
      counts = .record [("snapshots", .integer 1), ("attributes", .integer 0)] ∧
      PurgeCounts.decode counts = .ok ⟨1, 0⟩) ∧
    (∃ response, (respond {} (.ofCutoff 20)).run broken = (response, broken) ∧
      response.status = 500) := by
  intro snapshots entity db broken
  obtain ⟨husage, hpurge⟩ := respond_agrees {} db
  obtain ⟨husage', hpurge'⟩ := respond_agrees {} broken
  have hasks := (husage ⟨10, 30⟩).1
  have hasks' := (husage' ⟨30, 10⟩).1
  have hpurges := (hpurge 20).1
  obtain ⟨reported, hreported, hfull⟩ := (husage ⟨10, 30⟩).2 _ hasks
  obtain ⟨refused, hrefused, hinvalid⟩ := (husage' ⟨30, 10⟩).2 _ hasks'
  obtain ⟨failed, hfailed, hbroken⟩ := (husage' ⟨10, 30⟩).2 _ hasks
  obtain ⟨purged, hpurged, hdone⟩ := (hpurge 20).2.2 _ hpurges
  obtain ⟨unpurged, hunpurged, hundone⟩ := (hpurge' 20).2.2 _ hpurges
  have hreport : ∃ report db', (Reporting.summary {} ⟨10, 30⟩).run db = (.ok report, db') := by
    rcases Reporting.run_summary_cases {} ⟨10, 30⟩ db with
      ⟨invalid, -⟩ | ⟨-, cause, db', h, -⟩ | ⟨-, h⟩
    · exact absurd (by decide) invalid
    · have hmissing := (Tables.exists_failsToFetch_iff {} ⟨10, 30⟩ db).1 ⟨cause, db', h⟩
      simp [db] at hmissing
    · exact h
  have hrun : (Reporting.purge 20).run db =
      (.ok ⟨1, 0⟩, ⟨some [entity], some [⟨"a", 20, 5, 0⟩]⟩) := rfl
  have hrun' : (Reporting.purge 20).run broken =
      (.error (.store (.missingTable .entities)), broken) := rfl
  obtain ⟨report, db', hreport⟩ := hreport
  obtain ⟨rows, -, -, hperiod, hcontent⟩ := hfull.rows report db' hreport
  obtain ⟨hcounts, hcontent'⟩ := hdone.counts _ _ hrun
  refine ⟨hasks, hasks', hpurges,
    ⟨reported, _, hreported, hfull.reported.2 ⟨report, db', hreport⟩, ⟨rows, hcontent⟩, rfl,
      hperiod⟩,
    ⟨refused, hrefused, hinvalid.invalid.2 (by decide), hinvalid.invalid_wording (by decide)⟩,
    ⟨failed, hfailed, hbroken.failed.2 ⟨by decide, ?_⟩⟩,
    ⟨purged, _, hpurged, hdone.purged.2 ⟨_, _, hrun⟩, hcontent', rfl, hcounts⟩,
    ⟨unpurged, hunpurged, hundone.failed.2 ⟨_, _, hrun'⟩⟩⟩
  exact (Tables.exists_failsToFetch_iff {} ⟨10, 30⟩ broken).2 (.inl rfl)

end Http

end Metering
