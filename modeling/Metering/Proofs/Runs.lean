import Mathlib.Data.List.Nodup
import Metering.Proofs.Requests

/-!
# Runs of requests

A database is put one request after the other. Each of them leaves it in one of
a few ways, which `Request.leaves` lists. Until its tables are first created, an
empty database stays empty; from then on it has both, and what every request
keeps of them holds after every run.

* `Request.run_ask_snd`: what a request leaves of a database;
* `Tables.after`: the database after a run;
* `Tables.Sound`: no identity has two entities, and snapshots are in the order of
  saving;
* `Tables.Sound.after`, `Tables.after_empty_of_mem`: so it is after every run.
-/

namespace Metering

/-! ### What one request leaves -/

/-- The database after a purge. One that lacks a table is left as it was. -/
def Tables.purged (cutoffMs : Int64) : Tables → Tables
  | ⟨some es, some ss⟩ => ⟨some (sampled es (recent cutoffMs ss)), some (recent cutoffMs ss)⟩
  | db => db

theorem Tables.run_purge_snd (cutoffMs : Int64) (db : Tables) :
    ((SnapshotStore.purge cutoffMs).run db).2 = db.purged cutoffMs := by
  obtain ⟨_ | es, _ | ss⟩ := db
  · rfl
  · rfl
  · rfl
  · rfl

namespace Request

/-- The database that a request leaves. -/
def leaves (db : Tables) : Request → Tables
  | init => ⟨some (db.entities?.getD []), some (db.snapshots?.getD [])⟩
  | saveEntities es => { db with entities? := db.entities?.map (Tables.recorded · es) }
  | saveSnapshots ss => { db with snapshots? := db.snapshots?.map (· ++ ss) }
  | purge cutoffMs => db.purged cutoffMs
  | pass nowMs days => db.purged (Retention.cutoff nowMs days)
  | _ => db

/-- The snapshots that a request brings. -/
def brings : Request → List Snapshot
  | saveSnapshots ss => ss
  | _ => []

theorem run_ask_snd (r : Request) (db : Tables) : (r.ask.run db).2 = r.leaves db := by
  cases r with
  | init => rfl
  | saveEntities es =>
    refine (congrArg Prod.snd (Tables.run_saveEntities es db)).trans ?_
    obtain ⟨_ | rows, ss?⟩ := db <;> cases es <;> rfl
  | saveSnapshots ss =>
    refine (congrArg Prod.snd (Tables.run_saveSnapshots ss db)).trans ?_
    obtain ⟨es?, _ | rows⟩ := db
    · cases ss <;> rfl
    · cases ss with
      | nil => rw [leaves, Option.map_some, List.append_nil]
      | cons s ss => rfl
  | counts => exact Tables.keeps_counts db
  | rowsIn w => exact Tables.keeps_rowsIn w db
  | latestIn w => exact Tables.keeps_latestIn w db
  | latestBefore t => exact Tables.keeps_latestBefore t db
  | purge cutoffMs => exact Tables.run_purge_snd cutoffMs db
  | pass nowMs days => exact Tables.run_purge_snd _ db
  | summary policy p => exact Tables.keeps_summary policy p db
  | compact => rfl

/-- Without tables, only creating them has an effect. -/
theorem leaves_empty {r : Request} (h : r ≠ init) : r.leaves {} = {} := by
  cases r with
  | init => exact absurd rfl h
  | _ => rfl

end Request

namespace Tables

/-! ### Identities stay distinct -/

/-- No identity has two entities. -/
def Distinct (es : List Entity) : Prop := (es.map (·.identity)).Nodup

namespace Distinct

variable {es : List Entity}

/-- The identity tells the entity. -/
theorem eq (h : Distinct es) {e e' : Entity} (he : e ∈ es) (he' : e' ∈ es)
    (hid : e.identity = e'.identity) : e = e' :=
  List.inj_on_of_nodup_map h he he' hid

/-- An entity is added only if no entity has its identity. -/
theorem recordOne (h : Distinct es) (e : Entity) : Distinct (recordOne es e) := by
  rw [Tables.recordOne]
  split
  · exact h
  · next hnew =>
    rw [Distinct, List.map_append, List.nodup_append]
    refine ⟨h, List.pairwise_singleton _ _, fun x hx y hy heq => hnew ?_⟩
    obtain ⟨known, hknown, rfl⟩ := List.mem_map.1 hx
    obtain rfl : y = e.identity := List.mem_singleton.1 hy
    exact List.any_eq_true.2 ⟨known, hknown, decide_eq_true heq⟩

theorem recorded (h : Distinct es) (new : List Entity) : Distinct (recorded es new) := by
  induction new generalizing es with
  | nil => exact h
  | cons e new ih => exact ih (h.recordOne e)

theorem sampled (h : Distinct es) (ss : List Snapshot) : Distinct (sampled es ss) :=
  List.Nodup.sublist (List.filter_sublist.map _) h

end Distinct

/-! ### Runs -/

/-- What requests keep of two tables: no identity has two entities, and the
    snapshots are among the `saved` ones, in their order. -/
structure Sound (saved : List Snapshot) (es : List Entity) (ss : List Snapshot) : Prop where
  distinct : Distinct es
  sublist : ss.Sublist saved

variable {saved : List Snapshot} {es : List Entity} {ss : List Snapshot}

/-- Two tables stay two tables, and stay sound. -/
theorem Sound.leaves (h : Sound saved es ss) (r : Request) :
    ∃ es' ss', r.leaves ⟨some es, some ss⟩ = ⟨some es', some ss'⟩ ∧
      Sound (saved ++ r.brings) es' ss' := by
  have hsame : ss.Sublist (saved ++ []) := by rw [List.append_nil]; exact h.sublist
  have hkept : ∀ cutoffMs, (recent cutoffMs ss).Sublist (saved ++ []) := fun _ =>
    List.filter_sublist.trans hsame
  cases r with
  | saveEntities new => exact ⟨_, _, rfl, h.distinct.recorded new, hsame⟩
  | saveSnapshots new => exact ⟨_, _, rfl, h.distinct, h.sublist.append (List.Sublist.refl new)⟩
  | purge cutoffMs => exact ⟨_, _, rfl, h.distinct.sampled _, hkept _⟩
  | pass nowMs days => exact ⟨_, _, rfl, h.distinct.sampled _, hkept _⟩
  | _ => exact ⟨_, _, rfl, h.distinct, hsame⟩

/-- The database after it was put the requests, one after the other. -/
def after (db : Tables) (rs : List Request) : Tables :=
  rs.foldl (fun db r => (r.ask.run db).2) db

theorem after_cons (db : Tables) (r : Request) (rs : List Request) :
    db.after (r :: rs) = (r.leaves db).after rs := by
  rw [← r.run_ask_snd db]
  rfl

theorem Sound.after (h : Sound saved es ss) (rs : List Request) :
    ∃ es' ss', Tables.after ⟨some es, some ss⟩ rs = ⟨some es', some ss'⟩ ∧
      Sound (saved ++ rs.flatMap (·.brings)) es' ss' := by
  induction rs generalizing saved es ss with
  | nil => exact ⟨es, ss, rfl, by rwa [List.flatMap_nil, List.append_nil]⟩
  | cons r rs ih =>
    obtain ⟨es', ss', hleaves, hsound⟩ := h.leaves r
    rw [after_cons, hleaves, List.flatMap_cons, ← List.append_assoc]
    exact ih hsound

theorem after_empty_of_not_mem {rs : List Request} (h : .init ∉ rs) : after {} rs = {} := by
  induction rs with
  | nil => rfl
  | cons r rs ih =>
    rw [List.mem_cons, not_or] at h
    rw [after_cons, Request.leaves_empty (Ne.symm h.1), ih h.2]

/-- Once its tables were created, a database that was empty has both, and is sound. -/
theorem after_empty_of_mem {rs : List Request} (h : .init ∈ rs) :
    ∃ es ss, after {} rs = ⟨some es, some ss⟩ ∧ Sound (rs.flatMap (·.brings)) es ss := by
  induction rs with
  | nil => exact absurd h List.not_mem_nil
  | cons r rs ih =>
    rw [after_cons, List.flatMap_cons]
    by_cases hinit : r = .init
    · subst hinit
      have hcreated : Sound [] [] [] := ⟨List.nodup_nil, List.Sublist.refl []⟩
      exact hcreated.after rs
    · -- There are no tables yet, so what this request brings is not saved.
      obtain ⟨es, ss, hafter, hsound⟩ := ih ((List.mem_cons.1 h).resolve_left (Ne.symm hinit))
      rw [Request.leaves_empty hinit]
      exact ⟨es, ss, hafter, hsound.distinct,
        hsound.sublist.trans (List.sublist_append_right _ _)⟩

end Tables

end Metering
