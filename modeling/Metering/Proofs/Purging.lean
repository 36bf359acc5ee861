import Mathlib.Data.UInt
import Metering.Proofs.Searching

/-!
# Purges one after the other

What a purge keeps depends on its cutoff alone, so purges in a row keep what the
one with the latest cutoff keeps. Each removes what those before it have left,
and no row twice: their counts add up to the counts of that one purge.

* `recent_recent`, `sampled_sampled`: keeping from two instants on is keeping
  from the later one on;
* `run_purges`: the tables after purges in a row, and the numbers of rows removed;
* `purges_eq_purge_max`: the same as one purge, in the tables and in the counts.
-/

namespace Metering.Tables

/-! ### What two purges keep -/

theorem recent_recent (c d : Int64) (ss : List Snapshot) :
    recent d (recent c ss) = recent (max c d) ss := by
  rw [recent, recent, recent, List.filter_filter]
  refine List.filter_congr fun s _ => ?_
  rw [← Bool.decide_and, decide_eq_decide, Std.max_le_iff, and_comm]

/-- An entity with a snapshot from the later instant on has one from the earlier
    instant on, so no entity is counted as an orphan twice. -/
theorem sampled_sampled (c d : Int64) (es : List Entity) (ss : List Snapshot) :
    sampled (sampled es (recent c ss)) (recent d (recent c ss)) =
      sampled es (recent d (recent c ss)) := by
  rw [sampled, sampled, sampled, List.filter_filter]
  refine List.filter_congr fun e _ => ?_
  rw [Bool.and_eq_left_iff_imp]
  intro h
  obtain ⟨s, hs, hid⟩ := List.any_eq_true.1 h
  exact List.any_eq_true.2 ⟨s, (List.mem_filter.1 hs).1, hid⟩

theorem length_recent_le (c : Int64) (ss : List Snapshot) : (recent c ss).length ≤ ss.length :=
  List.length_filter_le _ ss

theorem length_sampled_le (es : List Entity) (ss : List Snapshot) :
    (sampled es ss).length ≤ es.length :=
  List.length_filter_le _ es

/-- What is kept from an instant on is also kept from any earlier one on. -/
theorem recent_eq_self_of_le {c d : Int64} (h : d ≤ c) (ss : List Snapshot) :
    recent d (recent c ss) = recent c ss := by
  refine List.filter_eq_self.2 fun s hs => ?_
  have hle : c ≤ s.timestampMs := of_decide_eq_true (List.mem_filter.1 hs).2
  exact decide_eq_true (Std.le_trans h hle)

/-! ### Purges in a row -/

/-- The counts of a purge that removes so many snapshots and so many entities. -/
def countsOf (removed : Nat × Nat) : PurgeCounts := ⟨.ofNat removed.1, .ofNat removed.2⟩

/-- Purges in a row keep what the one with the latest cutoff keeps. The rows that
    they remove and those that are kept are all rows. -/
theorem run_purges {cs : List Int64} {c : Int64} (hc : cs.max? = some c) (es : List Entity)
    (ss : List Snapshot) :
    ∃ removed : List (Nat × Nat),
      (cs.mapM SnapshotStore.purge).run (⟨some es, some ss⟩ : Tables) =
        (.ok (removed.map countsOf), ⟨some (sampled es (recent c ss)), some (recent c ss)⟩) ∧
      (removed.map (·.1)).sum + (recent c ss).length = ss.length ∧
      (removed.map (·.2)).sum + (sampled es (recent c ss)).length = es.length := by
  induction cs generalizing es ss c with
  | nil => cases hc
  | cons d cs ih =>
    -- The first purge removes its rows, the others what is to be removed of the rest.
    have hss := length_recent_le d ss
    have hes := length_sampled_le es (recent d ss)
    rw [List.max?_cons] at hc
    cases hcs : cs.max? with
    | none =>
      obtain rfl := List.max?_eq_none_iff.1 hcs
      rw [hcs, Option.elim_none, Option.some.injEq] at hc
      subst hc
      refine ⟨[(_, _)], run_mapM_cons_of_ok (run_purge d) run_mapM_nil, ?_, ?_⟩
      · simp only [List.map_cons, List.map_nil, List.sum_cons, List.sum_nil]
        omega
      · simp only [List.map_cons, List.map_nil, List.sum_cons, List.sum_nil]
        omega
    | some m =>
      rw [hcs, Option.elim_some, Option.some.injEq] at hc
      subst hc
      obtain ⟨removed, hrun, hsnapshots, hentities⟩ :=
        ih hcs (sampled es (recent d ss)) (recent d ss)
      rw [sampled_sampled, recent_recent] at hrun hentities
      rw [recent_recent] at hsnapshots
      refine ⟨(_, _) :: removed, run_mapM_cons_of_ok (run_purge d) hrun, ?_, ?_⟩
      · simp only [List.map_cons, List.sum_cons]
        omega
      · simp only [List.map_cons, List.sum_cons]
        omega

/-! ### Adding counts up -/

theorem sum_map_ofNat (ns : List Nat) : (ns.map UInt64.ofNat).sum = .ofNat ns.sum := by
  induction ns with
  | nil => rfl
  | cons n ns ih => rw [List.map_cons, List.sum_cons, ih, List.sum_cons, UInt64.ofNat_add]

/-- Numbers whose sum fits 64 bits are counted exactly. -/
theorem sum_map_toNat_ofNat {ns : List Nat} (h : ns.sum < UInt64.size) :
    (ns.map fun n => (UInt64.ofNat n).toNat).sum = ns.sum := by
  induction ns with
  | nil => rfl
  | cons n ns ih =>
    rw [List.sum_cons] at h
    rw [List.map_cons, List.sum_cons, List.sum_cons, ih (by omega),
      UInt64.toNat_ofNat_of_lt' (by omega)]

/-- Purges in a row, in any order of their cutoffs, are one purge at the latest
    cutoff. That purge keeps the snapshots from the cutoff on, in their order, and
    the entities that have one of them; it counts the rows that it removes, and the
    counts of the purges in a row add up to its counts (as 64-bit numbers, and
    exactly where the tables have no more rows than those can count). After it, a
    purge at the same cutoff or an earlier one removes nothing. -/
theorem purges_eq_purge_max {cs : List Int64} {c : Int64} (hc : cs.max? = some c)
    (es : List Entity) (ss : List Snapshot) :
    ∃ counts total,
      (cs.mapM SnapshotStore.purge).run (⟨some es, some ss⟩ : Tables) =
        (.ok counts, ⟨some (sampled es (recent c ss)), some (recent c ss)⟩) ∧
      (SnapshotStore.purge c).run (⟨some es, some ss⟩ : Tables) =
        (.ok total, ⟨some (sampled es (recent c ss)), some (recent c ss)⟩) ∧
      total.snapshots = .ofNat (ss.length - (recent c ss).length) ∧
      total.entities = .ofNat (es.length - (sampled es (recent c ss)).length) ∧
      (counts.map (·.snapshots)).sum = total.snapshots ∧
      (counts.map (·.entities)).sum = total.entities ∧
      (ss.length < UInt64.size →
        (counts.map (·.snapshots.toNat)).sum = ss.length - (recent c ss).length ∧
          total.snapshots.toNat = ss.length - (recent c ss).length) ∧
      (es.length < UInt64.size →
        (counts.map (·.entities.toNat)).sum = es.length - (sampled es (recent c ss)).length ∧
          total.entities.toNat = es.length - (sampled es (recent c ss)).length) ∧
      ∀ d ≤ c,
        (SnapshotStore.purge d).run
            (⟨some (sampled es (recent c ss)), some (recent c ss)⟩ : Tables) =
          (.ok ⟨0, 0⟩, ⟨some (sampled es (recent c ss)), some (recent c ss)⟩) := by
  obtain ⟨removed, hrun, hsnapshots, hentities⟩ := run_purges hc es ss
  have hsum : (removed.map (·.1)).sum = ss.length - (recent c ss).length := by omega
  have hsum' : (removed.map (·.2)).sum = es.length - (sampled es (recent c ss)).length := by omega
  refine ⟨_, _, hrun, run_purge c, rfl, rfl, ?_, ?_, fun h => ⟨?_, ?_⟩, fun h => ⟨?_, ?_⟩,
    fun d hd => ?_⟩
  · rw [← hsum, ← sum_map_ofNat, List.map_map, List.map_map]
    rfl
  · rw [← hsum', ← sum_map_ofNat, List.map_map, List.map_map]
    rfl
  · have hfits : (removed.map (·.1)).sum < UInt64.size := by omega
    rw [← hsum, ← sum_map_toNat_ofNat hfits, List.map_map, List.map_map]
    rfl
  · exact UInt64.toNat_ofNat_of_lt' (by omega)
  · have hfits : (removed.map (·.2)).sum < UInt64.size := by omega
    rw [← hsum', ← sum_map_toNat_ofNat hfits, List.map_map, List.map_map]
    rfl
  · exact UInt64.toNat_ofNat_of_lt' (by omega)
  · rw [run_purge, sampled_sampled, recent_eq_self_of_le hd, Nat.sub_self, Nat.sub_self]
    rfl

/-- Three purges, the second with the latest cutoff: the entity without snapshots goes
    with the first of them, that of the old snapshots with the second. -/
theorem purges_out_of_order :
    let entity : String → Entity := fun x =>
      ⟨x, "vm", "small", "owner", "account", "cluster", "zone"⟩
    let db : Tables :=
      ⟨some [entity "a", entity "b", entity "c"],
        some [⟨"b", 15, 1, 1⟩, ⟨"a", 40, 2, 0⟩, ⟨"b", 30, 3, 1⟩, ⟨"a", 5, 0, 0⟩]⟩
    let db' : Tables := ⟨some [entity "a"], some [⟨"a", 40, 2, 0⟩]⟩
    ∃ counts, ([20, 40, 10].mapM SnapshotStore.purge).run db = (.ok counts, db') ∧
      (SnapshotStore.purge 40).run db = (.ok ⟨3, 2⟩, db') ∧
      (counts.map (·.snapshots.toNat)).sum = 3 ∧ (counts.map (·.entities.toNat)).sum = 2 ∧
      (SnapshotStore.purge 10).run db' = (.ok ⟨0, 0⟩, db') := by
  intro entity db db'
  have hmax : ([20, 40, 10] : List Int64).max? = some 40 := by decide
  obtain ⟨counts, ⟨snapshots, entities⟩, hrun, htotal, hs, he, -, -, hs', he', hagain⟩ :=
    purges_eq_purge_max hmax
      [entity "a", entity "b", entity "c"]
      [⟨"b", 15, 1, 1⟩, ⟨"a", 40, 2, 0⟩, ⟨"b", 30, 3, 1⟩, ⟨"a", 5, 0, 0⟩]
  obtain rfl : snapshots = 3 := hs
  obtain rfl : entities = 2 := he
  exact ⟨counts, hrun, htotal, (hs' (by decide)).1, (he' (by decide)).1, hagain 10 (by decide)⟩

end Metering.Tables
