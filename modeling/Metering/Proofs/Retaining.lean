import Metering.Proofs.Purging
import Metering.Proofs.Runs

/-!
# What retention passes keep

A retention pass keeps the snapshots of so many days, and the entities that have one of
them. The cutoff is computed in saturating arithmetic, but it only ever stops at the lower
end of the 64-bit range, and no snapshot lies below that. Passes one after the other keep
less and less, so the last one decides.

* `Retention.since`: the beginning of what is kept, over the integers;
* `Retention.cutoff_le_iff`: the cutoff keeps just what comes from there on;
* `Tables.purged_purged`: a purge undoes nothing of what one with an earlier cutoff left;
* `Tables.passes_keep_window`: what one pass keeps, and what a run of passes keeps.
-/

namespace Metering

namespace Retention

/-- The instant from which snapshots are kept at `nowMs`, which may be below all 64-bit
    instants. -/
def since (nowMs : Int64) (days : UInt32) : Int := nowMs.toInt - days.toNat * 86400000

/-- The days of retention fit 64 bits, so only their distance from `nowMs` may stop. -/
theorem toInt_cutoff (nowMs : Int64) (days : UInt32) :
    (cutoff nowMs days).toInt = Saturation.clamp (since nowMs days) := by
  have hdays := days.toNat_lt
  have hnumber : (Int64.ofNat days.toNat).toInt = days.toNat :=
    Int64.toInt_ofNat_of_lt (by omega)
  have hday : dayMs.toInt = 86400000 := by decide
  have hspan : Saturation.clamp (days.toNat * 86400000) = days.toNat * 86400000 :=
    Saturation.clamp_eq_self (by omega) (by omega)
  rw [cutoff, Saturation.toInt_sub, Saturation.toInt_mul, hnumber, hday, hspan, since]

theorem cutoff_le_iff {nowMs t : Int64} {days : UInt32} :
    cutoff nowMs days ≤ t ↔ since nowMs days ≤ t.toInt := by
  have := t.le_toInt
  have := nowMs.toInt_lt
  rw [Int64.le_iff_toInt_le, toInt_cutoff, Saturation.clamp, since]
  omega

theorem cutoff_le_cutoff {nowMs nowMs' : Int64} (h : nowMs ≤ nowMs') (days : UInt32) :
    cutoff nowMs days ≤ cutoff nowMs' days := by
  rw [Int64.le_iff_toInt_le] at h
  rw [Int64.le_iff_toInt_le, toInt_cutoff, toInt_cutoff, Saturation.clamp, Saturation.clamp, since,
    since]
  omega

end Retention

namespace Tables

open Retention (since cutoff)

/-- The snapshots that a pass keeps. -/
theorem recent_cutoff (nowMs : Int64) (days : UInt32) (ss : List Snapshot) :
    recent (cutoff nowMs days) ss = ss.filter fun s => since nowMs days ≤ s.timestampMs.toInt :=
  List.filter_congr fun _ _ => decide_eq_decide.2 Retention.cutoff_le_iff

/-- The entities that a pass keeps. -/
theorem sampled_recent_cutoff (nowMs : Int64) (days : UInt32) (es : List Entity)
    (ss : List Snapshot) :
    sampled es (recent (cutoff nowMs days) ss) = es.filter fun e =>
      ∃ s ∈ ss, s.identity = e.identity ∧ since nowMs days ≤ s.timestampMs.toInt := by
  refine List.filter_congr fun e _ => ?_
  rw [recent_cutoff, List.any_filter, Bool.eq_iff_iff, List.any_eq_true, decide_eq_true_iff]
  simp only [Bool.and_eq_true, decide_eq_true_eq, and_comm]

/-- Nothing that is kept from an instant on was removed up to an earlier one. -/
theorem recent_of_le {c d : Int64} (h : c ≤ d) (ss : List Snapshot) :
    recent d (recent c ss) = recent d ss := by
  rw [recent, recent, List.filter_filter]
  refine List.filter_congr fun s _ => ?_
  rw [Bool.and_eq_left_iff_imp, decide_eq_true_iff, decide_eq_true_iff]
  exact Std.le_trans h

/-- After a purge, what one with an earlier cutoff did before does not show. -/
theorem purged_purged {c d : Int64} (h : c ≤ d) (db : Tables) :
    (db.purged c).purged d = db.purged d := by
  obtain ⟨_ | es, _ | ss⟩ := db
  · rfl
  · rfl
  · rfl
  · have hentities := sampled_sampled c d es ss
    rw [recent_of_le h] at hentities
    simp only [purged, recent_of_le h, hentities]

/-! ### Passes in a row -/

/-- The instants of the passes among requests. -/
def passInstants (rs : List Request) : List Int64 :=
  rs.filterMap fun
    | .pass nowMs _ => some nowMs
    | _ => none

/-- A pass writes: it removes entities without snapshots. -/
theorem not_reads_pass (nowMs : Int64) (days : UInt32) :
    ¬Reads (Request.pass nowMs days).ask := fun h => by
  have hsame := h ⟨some [⟨"a", "vm", "small", "owner", "account", "cluster", "zone"⟩], some []⟩
  rw [Request.run_ask_snd] at hsame
  cases hsame

theorem passInstants_cons_of_reads {r : Request} (h : Reads r.ask) (rs : List Request) :
    passInstants (r :: rs) = passInstants rs := by
  cases r with
  | pass nowMs days => exact absurd h (not_reads_pass nowMs days)
  | _ => rfl

/-- Passes with the same number of days at later and later instants, and nothing but reading
    besides: the database is as before, or as the last of them alone leaves it. -/
theorem after_passes {days : UInt32} {rs : List Request}
    (only : ∀ r ∈ rs, Reads r.ask ∨ ∃ nowMs, r = .pass nowMs days)
    (sorted : (passInstants rs).Pairwise (· ≤ ·)) (db : Tables) :
    db.after rs = (passInstants rs).getLast?.elim db fun lastMs =>
      db.purged (cutoff lastMs days) := by
  induction rs generalizing db with
  | nil => rfl
  | cons r rs ih =>
    rw [List.forall_mem_cons] at only
    obtain ⟨hr, only⟩ := only
    rcases hr with hreads | ⟨nowMs, rfl⟩
    · have hsame : r.leaves db = db := (r.run_ask_snd db).symm.trans (hreads db)
      rw [passInstants_cons_of_reads hreads] at sorted ⊢
      rw [after_cons, hsame, ih only sorted]
    · have hcons : passInstants (.pass nowMs days :: rs) = nowMs :: passInstants rs := rfl
      rw [hcons] at sorted ⊢
      obtain ⟨hfirst, sorted⟩ := List.pairwise_cons.1 sorted
      rw [after_cons, ih only sorted, List.getLast?_cons]
      cases hlast : (passInstants rs).getLast? with
      | none => rfl
      | some lastMs =>
        have hle := Retention.cutoff_le_cutoff (hfirst lastMs (List.mem_of_getLast? hlast)) days
        exact purged_purged hle db

/-- A pass on two tables, at whatever instant and for however many days, succeeds. It keeps
    the snapshots from that many days before the instant on, the difference being taken
    over the integers, and the entities that have one of these, all in their order; it counts
    what it removes. Passes at later and later instants with the same number of days, with any
    requests in between that only read, leave any database as the last pass alone would. -/
theorem passes_keep_window (days : UInt32) :
    (∀ (nowMs : Int64) (es : List Entity) (ss : List Snapshot),
      ∃ (es' : List Entity) (ss' : List Snapshot),
        (Retention.pass nowMs days).run (⟨some es, some ss⟩ : Tables) =
          (.ok ⟨.ofNat (ss.length - ss'.length), .ofNat (es.length - es'.length)⟩,
            ⟨some es', some ss'⟩) ∧
        ss' = ss.filter (fun s => since nowMs days ≤ s.timestampMs.toInt) ∧
        es' = es.filter fun e =>
          ∃ s ∈ ss, s.identity = e.identity ∧ since nowMs days ≤ s.timestampMs.toInt) ∧
    ∀ (db : Tables) (rs : List Request) (lastMs : Int64),
      (∀ r ∈ rs, Reads r.ask ∨ ∃ nowMs, r = .pass nowMs days) →
      (passInstants rs).Pairwise (· ≤ ·) → (passInstants rs).getLast? = some lastMs →
      db.after rs = ((Retention.pass lastMs days).run db).2 := by
  refine ⟨fun nowMs es ss => ?_, fun db rs lastMs only sorted hlast => ?_⟩
  · have hrun : (Retention.pass nowMs days).run (⟨some es, some ss⟩ : Tables) = _ :=
      Reporting.run_serve_of_ok (run_purge (cutoff nowMs days))
    exact ⟨_, _, hrun, recent_cutoff nowMs days ss, sampled_recent_cutoff nowMs days es ss⟩
  · have hpass : ((Retention.pass lastMs days).run db).2 = db.purged (cutoff lastMs days) :=
      run_purge_snd _ db
    rw [after_passes only sorted, hlast, Option.elim_some, hpass]

/-- A pass so early that its cutoff stops at the lower end of the range keeps a snapshot
    there; two later ones with a report and a count in between leave what the second leaves. -/
theorem passes_keep_window_of_first_instant :
    let entity : String → Entity := fun x =>
      ⟨x, "vm", "small", "owner", "account", "cluster", "zone"⟩
    let db : Tables :=
      ⟨some [entity "a", entity "b", entity "c"],
        some [⟨"b", 86400000, 1, 1⟩, ⟨"a", Int64.minValue, 0, 0⟩, ⟨"b", 86399999, 0, 0⟩]⟩
    let rs : List Request :=
      [.counts, .pass 100000000 1, .summary {} ⟨0, 86400000⟩, .counts, .pass 172800000 1, .compact]
    (Retention.pass Int64.minValue 4294967295).run db =
      (.ok ⟨0, 1⟩, { db with entities? := some [entity "a", entity "b"] }) ∧
    (∀ r ∈ rs, Reads r.ask ∨ ∃ nowMs, r = .pass nowMs 1) ∧
    db.after rs = ⟨some [entity "b"], some [⟨"b", 86400000, 1, 1⟩]⟩ := by
  intro entity db rs
  have only : ∀ r ∈ rs, Reads r.ask ∨ ∃ nowMs, r = .pass nowMs 1 := by
    simp only [rs, List.forall_mem_cons]
    have counts : Reads Request.counts.ask := (Connection.keeps_serve keeps_counts).reads
    have compact : Reads Request.compact.ask := (Connection.keeps_serve keeps_compact).reads
    exact ⟨.inl counts, .inr ⟨_, rfl⟩, .inl (keeps_summary _ _).reads, .inl counts, .inr ⟨_, rfl⟩,
      .inl compact, fun _ h => absurd h List.not_mem_nil⟩
  obtain ⟨es', ss', hrun, rfl, rfl⟩ := (passes_keep_window 4294967295).1 Int64.minValue
    [entity "a", entity "b", entity "c"]
    [⟨"b", 86400000, 1, 1⟩, ⟨"a", Int64.minValue, 0, 0⟩, ⟨"b", 86399999, 0, 0⟩]
  have hafter := (passes_keep_window 1).2 db rs 172800000 only (by decide) rfl
  exact ⟨hrun.trans rfl, only, hafter.trans (by decide +kernel)⟩

end Tables

end Metering
