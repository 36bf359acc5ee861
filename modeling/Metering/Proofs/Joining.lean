import Mathlib.Data.List.FinRange
import Metering.Proofs.ByteOrder
import Metering.Proofs.Runs
import Metering.Proofs.Sorting

/-!
# What a fetch reads

A fetch joins the two tables of a database: it gives the snapshots of a window,
each beside its entity. What it gives is said by the *places* of the snapshots in
their table, so that equal snapshots are told apart: every place that belongs to
the window and has an entity occurs once, and no other occurs.

* `ReadBefore`: the order of places, by identity, instant and saving;
* `IsJoin`: what the rows of a window are;
* `isJoin_joined`: what is joined are those rows, if no identity has two entities;
* `rowsIn_after`: a fetch after any run of requests.
-/

namespace Metering.Tables

/-- The snapshot at the place `i` is read before the one at `j`: its identity comes
    first in the order of bytes; or its instant does, for one identity; or it was
    saved first, for one instant. -/
def ReadBefore (ss : List Snapshot) (i j : Fin ss.length) : Prop :=
  Text.bytes (ss.get i).identity < Text.bytes (ss.get j).identity ∨
    (ss.get i).identity = (ss.get j).identity ∧
      ((ss.get i).timestampMs < (ss.get j).timestampMs ∨
        (ss.get i).timestampMs = (ss.get j).timestampMs ∧ i < j)

/-- The rows are those of the window: each is a snapshot beside the one entity of its
    identity, and the snapshots are at those places that belong to the window and
    have an entity, each of them once, in the order in which they are read. -/
structure IsJoin (es : List Entity) (ss : List Snapshot) (w : Window) (rows : List Row) : Prop where
  entity : ∀ row ∈ rows, row.entity ∈ es ∧ row.entity.identity = row.snapshot.identity ∧
    ∀ e ∈ es, e.identity = row.snapshot.identity → e = row.entity
  places : ∃ places : List (Fin ss.length), rows.map (·.snapshot) = places.map ss.get ∧
    (∀ i, i ∈ places ↔ w.Contains (ss.get i).timestampMs ∧
      ∃ e ∈ es, e.identity = (ss.get i).identity) ∧
    places.Pairwise (ReadBefore ss)

/-! ### Places and rows -/

/-- A snapshot at a place of its table, beside an entity. -/
abbrev Placed (ss : List Snapshot) : Type := Fin ss.length × Entity

namespace Placed

variable {ss : List Snapshot}

/-- The row of the snapshot and its entity. -/
def row (x : Placed ss) : Row := ⟨x.2, ss.get x.1⟩

/-- The row of `x` is read before that of `y`, or they are at one place. -/
def le (x y : Placed ss) : Bool := (Row.order x.row y.row).isLE

theorem le_trans (x y z : Placed ss) (hxy : x.le y) (hyz : y.le z) : x.le z :=
  Row.isLE_order_trans x.row y.row z.row hxy hyz

theorem le_total (x y : Placed ss) : (x.le y || y.le x) = true :=
  Row.isLE_order_total x.row y.row

end Placed

/-- What is joined, before it is put in order. -/
def placed (es : List Entity) (ss : List Snapshot) (w : Window) : List (Placed ss) :=
  es.flatMap fun e => ((List.finRange ss.length).filter fun i =>
    (ss.get i).identity = e.identity ∧ w.Contains (ss.get i).timestampMs).map (·, e)

variable {es : List Entity} {ss : List Snapshot} {w : Window}

theorem mem_placed {x : Placed ss} :
    x ∈ placed es ss w ↔ x.2 ∈ es ∧ (ss.get x.1).identity = x.2.identity ∧
      w.Contains (ss.get x.1).timestampMs := by
  obtain ⟨i, e⟩ := x
  simp only [placed, List.mem_flatMap, List.mem_map, List.mem_filter, List.mem_finRange,
    decide_eq_true_eq, true_and, Prod.mk.injEq]
  constructor
  · rintro ⟨e, he, i, hi, rfl, rfl⟩
    exact ⟨he, hi⟩
  · rintro ⟨he, hi⟩
    exact ⟨e, he, i, hi, rfl, rfl⟩

/-- The rows of a window are those at the places. -/
theorem joined_eq (es : List Entity) (ss : List Snapshot) (w : Window) :
    joined es ss w = Row.sort ((placed es ss w).map Placed.row) := by
  refine congrArg Row.sort ?_
  rw [placed, List.map_flatMap]
  refine List.flatMap_congr fun e _ => ?_
  conv_lhs => rw [← ss.map_get_finRange, List.filter_map, List.map_map]
  rw [List.map_map]
  rfl

/-- Places of one identity have the same entity, and are in the order of saving. -/
theorem pairwise_placed (h : Distinct es) (ss : List Snapshot) (w : Window) :
    (placed es ss w).Pairwise fun x y => x.2.identity = y.2.identity → x.1 < y.1 := by
  refine List.pairwise_flatMap.2 ⟨fun e _ => ?_, ?_⟩
  · -- Within the places of one entity, the order is that of the table.
    refine List.pairwise_map.2 (((List.pairwise_lt_finRange _).filter _).imp ?_)
    exact fun hlt _ => hlt
  · -- The places of two entities are not of one identity.
    refine (List.pairwise_map.1 h).imp fun hne x hx y hy hid => absurd ?_ hne
    obtain ⟨i, -, rfl⟩ := List.mem_map.1 hx
    obtain ⟨j, -, rfl⟩ := List.mem_map.1 hy
    exact hid

/-! ### Places in reading order -/

/-- The places and their entities in reading order. -/
def readOrder (es : List Entity) (ss : List Snapshot) (w : Window) : List (Placed ss) :=
  (placed es ss w).mergeSort Placed.le

theorem joined_eq_map_readOrder (es : List Entity) (ss : List Snapshot) (w : Window) :
    joined es ss w = (readOrder es ss w).map Placed.row := by
  rw [joined_eq, Row.sort, readOrder, List.map_mergeSort]
  exact fun _ _ _ _ => rfl

theorem mem_readOrder {x : Placed ss} :
    x ∈ readOrder es ss w ↔ x.2 ∈ es ∧ (ss.get x.1).identity = x.2.identity ∧
      w.Contains (ss.get x.1).timestampMs :=
  List.mem_mergeSort.trans mem_placed

theorem pairwise_readOrder (h : Distinct es) (ss : List Snapshot) (w : Window) :
    (readOrder es ss w).Pairwise fun x y => ReadBefore ss x.1 y.1 := by
  have hsorted :=
    pairwise_mergeSort_of_pairwise Placed.le_trans Placed.le_total (pairwise_placed h ss w)
  refine hsorted.imp_of_mem fun {x y} hx hy hxy => ?_
  obtain ⟨hle, htie⟩ := hxy
  obtain ⟨-, hid, -⟩ := mem_readOrder.1 hx
  obtain ⟨-, hid', -⟩ := mem_readOrder.1 hy
  rw [ReadBefore, hid, hid', ← Text.lt_iff_bytes_lt]
  rcases Row.lt_or_eq_of_isLE hle with hlt | ⟨heq, hts⟩
  · exact .inl hlt
  · refine .inr ⟨heq, ?_⟩
    by_cases hlt : (ss.get x.1).timestampMs < (ss.get y.1).timestampMs
    · exact .inl hlt
    · -- The rows are before one another, so their places have kept their order.
      have hge : (Row.order y.row x.row).isLE :=
        (Row.isLE_order_iff heq.symm).2 (Std.not_lt.1 hlt)
      exact .inr ⟨Std.le_antisymm hts (Std.not_lt.1 hlt), htie hge heq⟩

/-- What is joined are the rows of the window. -/
theorem isJoin_joined (h : Distinct es) (ss : List Snapshot) (w : Window) :
    IsJoin es ss w (joined es ss w) := by
  rw [joined_eq_map_readOrder]
  refine ⟨fun row hrow => ?_, (readOrder es ss w).map (·.1), ?_, fun i => ?_, ?_⟩
  · obtain ⟨x, hx, rfl⟩ := List.mem_map.1 hrow
    obtain ⟨he, hid, -⟩ := mem_readOrder.1 hx
    exact ⟨he, hid.symm, fun e he' hid' => h.eq he' he (hid'.trans hid)⟩
  · rw [List.map_map, List.map_map]
    rfl
  · constructor
    · intro hi
      obtain ⟨⟨i, e⟩, hx, rfl⟩ := List.mem_map.1 hi
      obtain ⟨he, hid, hin⟩ := mem_readOrder.1 hx
      exact ⟨hin, e, he, hid.symm⟩
    · rintro ⟨hin, e, he, hid⟩
      exact List.mem_map.2 ⟨(i, e), mem_readOrder.2 ⟨he, hid.symm, hin⟩, rfl⟩
  · exact List.pairwise_map.2 (pairwise_readOrder h ss w)

/-! ### Fetches after runs -/

/-- After every run of requests on a database that starts empty, a fetch gives the
    rows of its window if the tables were ever created, and fails for want of the
    entities if they were not. No identity has two entities then, and the table of
    snapshots holds some of those that were saved, in the order of saving. -/
theorem rowsIn_after (rs : List Request) (w : Window) :
    (.init ∈ rs → ∃ es ss rows, after {} rs = ⟨some es, some ss⟩ ∧
      (SnapshotStore.rowsIn w).run (after {} rs) = (.ok rows, after {} rs) ∧
      IsJoin es ss w rows ∧ Distinct es ∧ ss.Sublist (rs.flatMap (·.brings))) ∧
    (.init ∉ rs → (SnapshotStore.rowsIn w).run (after {} rs) =
      (.error (.missingTable .entities), {})) := by
  constructor
  · intro h
    obtain ⟨es, ss, hafter, hsound⟩ := after_empty_of_mem h
    refine ⟨es, ss, joined es ss w, hafter, ?_, isJoin_joined hsound.distinct ss w,
      hsound.distinct, hsound.sublist⟩
    rw [hafter, run_rowsIn]
  · intro h
    rw [after_empty_of_not_mem h]
    rfl

/-- An entity saved twice keeps its first owner, equal snapshots are read as often as
    they were saved, and neither what was saved before the tables were created is
    read, nor what has no entity, lies on a bound or was purged. -/
theorem rowsIn_after_equal_snapshots :
    let entity : String → String → Entity := fun x owner =>
      ⟨x, "vm", "small", owner, "account", "cluster", "zone"⟩
    let rs : List Request := [.saveSnapshots [⟨"z", 5, 0, 0⟩], .init,
      .saveEntities [entity "é" "first", entity "z" "other", entity "é" "second"],
      .saveSnapshots [⟨"é", 5, 1, 1⟩, ⟨"z", 9, 2, 2⟩, ⟨"ghost", 6, 3, 3⟩, ⟨"é", 5, 1, 1⟩,
        ⟨"z", 4, 0, 0⟩, ⟨"é", 10, 4, 4⟩, ⟨"z", 2, 0, 0⟩],
      .purge 3, .compact]
    .init ∈ rs ∧ ∃ es ss rows, after {} rs = ⟨some es, some ss⟩ ∧
      (SnapshotStore.rowsIn ⟨1, 10⟩).run (after {} rs) = (.ok rows, after {} rs) ∧
      IsJoin es ss ⟨1, 10⟩ rows ∧
      rows.Perm [⟨entity "é" "first", ⟨"é", 5, 1, 1⟩⟩, ⟨entity "é" "first", ⟨"é", 5, 1, 1⟩⟩,
        ⟨entity "z" "other", ⟨"z", 9, 2, 2⟩⟩, ⟨entity "z" "other", ⟨"z", 4, 0, 0⟩⟩] := by
  intro entity rs
  have created : .init ∈ rs := List.mem_cons_of_mem _ List.mem_cons_self
  obtain ⟨es, ss, rows, hafter, hrun, hjoin, -⟩ := (rowsIn_after rs ⟨1, 10⟩).1 created
  refine ⟨created, es, ss, rows, hafter, hrun, hjoin, ?_⟩
  rw [hafter, run_rowsIn] at hrun
  cases hrun
  have hrs : after {} rs = ⟨some [entity "é" "first", entity "z" "other"],
      some [⟨"é", 5, 1, 1⟩, ⟨"z", 9, 2, 2⟩, ⟨"ghost", 6, 3, 3⟩, ⟨"é", 5, 1, 1⟩,
        ⟨"z", 4, 0, 0⟩, ⟨"é", 10, 4, 4⟩]⟩ := by decide +kernel
  obtain ⟨⟨⟩, ⟨⟩⟩ := Tables.mk.inj (hafter.symm.trans hrs)
  exact Row.sort_perm _

end Metering.Tables
