import Metering.Observation
import Metering.Proofs.Maps
import Metering.Proofs.Sorting

/-!
# Gathering observations

The rows of a report are put in reading order and gathered, one observation for
each identity. Said without order or fold: the first sample of an observation is
that of the earliest row of its identity, the last sample that of the latest
row; where several rows are at one instant, the store's order decides.

* `IsEarliest`, `IsLatest`: the first and the last row of an identity in time;
* `Spans`, `Census`: what an observation, and a list of observations, say about rows;
* `getElem?_gather`: gathering keeps the first row of an identity and the last;
* `census_gather`: the observations gathered from sorted rows are a census;
* `Census.perm`: any other census has the same observations in another order.
-/

namespace Metering

namespace Row

/-- The rows of the identity `x`, in their order. -/
def withIdentity (x : String) (rows : List Row) : List Row :=
  rows.filter (·.entity.identity = x)

theorem mem_withIdentity {x : String} {rows : List Row} {row : Row} :
    row ∈ withIdentity x rows ↔ row ∈ rows ∧ row.entity.identity = x := by
  simp only [withIdentity, List.mem_filter, decide_eq_true_eq]

theorem withIdentity_cons_of_eq {x : String} {row : Row} (rows : List Row)
    (h : row.entity.identity = x) :
    withIdentity x (row :: rows) = row :: withIdentity x rows := by
  simp only [withIdentity, List.filter_cons, h, decide_true, if_true]

theorem withIdentity_cons_of_ne {x : String} {row : Row} (rows : List Row)
    (h : row.entity.identity ≠ x) : withIdentity x (row :: rows) = withIdentity x rows := by
  simp only [withIdentity, List.filter_cons, h, decide_false, Bool.false_eq_true, if_false]

/-- Where rows are chosen by their identities, an identity that is chosen has all its rows. -/
theorem withIdentity_filter (mine : String → Bool) {x : String} (h : mine x) (rows : List Row) :
    withIdentity x (rows.filter (mine ·.entity.identity)) = withIdentity x rows := by
  rw [withIdentity, withIdentity, List.filter_filter]
  refine List.filter_congr fun row _ => ?_
  rw [Bool.and_eq_left_iff_imp, decide_eq_true_iff]
  rintro rfl
  exact h

/-- The rows at a place are rows of its identity. -/
theorem filter_withIdentity (x : String) (t : Int64) (rows : List Row) :
    (withIdentity x rows).filter (·.At x t) = rows.filter (·.At x t) := by
  rw [withIdentity, List.filter_filter]
  refine List.filter_congr fun row _ => ?_
  by_cases hat : row.At x t
  · simp only [hat, hat.1, decide_true, Bool.and_self]
  · simp only [hat, decide_false, Bool.false_and]

/-- The row is the first of its identity in time; of several at that instant, the
    first in the list. -/
structure IsEarliest (rows : List Row) (row : Row) : Prop where
  le : ∀ r ∈ rows, r.entity.identity = row.entity.identity →
    row.snapshot.timestampMs ≤ r.snapshot.timestampMs
  head : (rows.filter (·.At row.entity.identity row.snapshot.timestampMs)).head? = some row

/-- The row is the last of its identity in time; of several at that instant, the
    last in the list. -/
structure IsLatest (rows : List Row) (row : Row) : Prop where
  ge : ∀ r ∈ rows, r.entity.identity = row.entity.identity →
    r.snapshot.timestampMs ≤ row.snapshot.timestampMs
  last : (rows.filter (·.At row.entity.identity row.snapshot.timestampMs)).getLast? = some row

/-! ### The rows of one identity, in reading order -/

theorem mem_withIdentity_sort {x : String} {rows : List Row} {row : Row} :
    row ∈ withIdentity x (sort rows) ↔ row ∈ rows ∧ row.entity.identity = x := by
  rw [mem_withIdentity, (sort_perm rows).mem_iff]

theorem pairwise_withIdentity_sort (x : String) (rows : List Row) :
    (withIdentity x (sort rows)).Pairwise fun a b =>
      a.snapshot.timestampMs ≤ b.snapshot.timestampMs := by
  refine ((pairwise_sort rows).filter _).imp_of_mem fun ha hb hab => ?_
  exact (isLE_order_iff ((mem_withIdentity.1 ha).2.trans (mem_withIdentity.1 hb).2.symm)).1 hab

/-- Sorting keeps the order of the rows at a place, also among those of its identity. -/
theorem filter_withIdentity_sort (x : String) (t : Int64) (rows : List Row) :
    (withIdentity x (sort rows)).filter (·.At x t) = rows.filter (·.At x t) := by
  rw [filter_withIdentity, filter_sort]

theorem IsEarliest.mem {rows : List Row} {row : Row} (h : IsEarliest rows row) : row ∈ rows :=
  (List.mem_filter.1 (List.mem_of_head? h.head)).1

theorem IsLatest.mem {rows : List Row} {row : Row} (h : IsLatest rows row) : row ∈ rows :=
  (List.mem_filter.1 (List.mem_of_getLast? h.last)).1

/-- An identity has one earliest row. -/
theorem IsEarliest.unique {rows : List Row} {a b : Row} (ha : IsEarliest rows a)
    (hb : IsEarliest rows b) (hid : a.entity.identity = b.entity.identity) : a = b := by
  have hts : a.snapshot.timestampMs = b.snapshot.timestampMs :=
    Std.le_antisymm (ha.le b hb.mem hid.symm) (hb.le a ha.mem hid)
  have hhead := ha.head
  rw [hid, hts, hb.head] at hhead
  exact (Option.some.inj hhead).symm

/-- An identity has one latest row. -/
theorem IsLatest.unique {rows : List Row} {a b : Row} (ha : IsLatest rows a)
    (hb : IsLatest rows b) (hid : a.entity.identity = b.entity.identity) : a = b := by
  have hts : a.snapshot.timestampMs = b.snapshot.timestampMs :=
    Std.le_antisymm (hb.ge a ha.mem hid) (ha.ge b hb.mem hid.symm)
  have hlast := ha.last
  rw [hid, hts, hb.last] at hlast
  exact (Option.some.inj hlast).symm

/-- What is read first of an identity is its earliest row. -/
theorem isEarliest_of_head {x : String} {rows : List Row} {row : Row}
    (h : (withIdentity x (sort rows)).head? = some row) : IsEarliest rows row := by
  obtain ⟨-, rfl⟩ := mem_withIdentity_sort.1 (List.mem_of_head? h)
  obtain ⟨rest, hsamples⟩ := List.head?_eq_some_iff.1 h
  refine ⟨fun r hr hid => ?_, ?_⟩
  · -- Every other row of the identity is read after this one.
    have hmem := mem_withIdentity_sort.2 ⟨hr, hid⟩
    have hsorted := pairwise_withIdentity_sort row.entity.identity rows
    rw [hsamples] at hmem hsorted
    rcases List.mem_cons.1 hmem with rfl | hrest
    · exact Std.le_refl _
    · exact List.rel_of_pairwise_cons hsorted hrest
  · -- The rows at its place are in the order of the store, also when sorted.
    rw [← filter_withIdentity_sort, hsamples, List.filter_cons]
    simp only [row.at_self, decide_true, if_true, List.head?_cons]

/-- What is read last of an identity is its latest row. -/
theorem isLatest_of_getLast {x : String} {rows : List Row} {row : Row}
    (h : (withIdentity x (sort rows)).getLast? = some row) : IsLatest rows row := by
  obtain ⟨-, rfl⟩ := mem_withIdentity_sort.1 (List.mem_of_getLast? h)
  obtain ⟨init, hsamples⟩ := List.getLast?_eq_some_iff.1 h
  refine ⟨fun r hr hid => ?_, ?_⟩
  · have hmem := mem_withIdentity_sort.2 ⟨hr, hid⟩
    have hsorted := pairwise_withIdentity_sort row.entity.identity rows
    rw [hsamples] at hmem hsorted
    rcases List.mem_append.1 hmem with hinit | hlast
    · exact (List.pairwise_append.1 hsorted).2.2 r hinit row List.mem_cons_self
    · rw [List.mem_singleton.1 hlast]
      exact Std.le_refl _
  · rw [← filter_withIdentity_sort, hsamples, List.filter_append, filter_at_self,
      List.getLast?_append]
    rfl

theorem IsEarliest.head?_eq {rows : List Row} {row : Row} (h : IsEarliest rows row) :
    (withIdentity row.entity.identity (sort rows)).head? = some row := by
  have hmem := mem_withIdentity_sort.2 ⟨h.mem, rfl⟩
  cases hhead : (withIdentity row.entity.identity (sort rows)).head? with
  | none => exact absurd hmem (List.head?_eq_none_iff.1 hhead ▸ List.not_mem_nil)
  | some first =>
    have hid := (mem_withIdentity.1 (List.mem_of_head? hhead)).2
    rw [(isEarliest_of_head hhead).unique h hid]

theorem IsLatest.getLast?_eq {rows : List Row} {row : Row} (h : IsLatest rows row) :
    (withIdentity row.entity.identity (sort rows)).getLast? = some row := by
  have hmem := mem_withIdentity_sort.2 ⟨h.mem, rfl⟩
  cases hlast : (withIdentity row.entity.identity (sort rows)).getLast? with
  | none => exact absurd hmem (List.getLast?_eq_none_iff.1 hlast ▸ List.not_mem_nil)
  | some last =>
    have hid := (mem_withIdentity.1 (List.mem_of_getLast? hlast)).2
    rw [(isLatest_of_getLast hlast).unique h hid]

end Row

namespace Observation

/-! ### Observations as they are gathered -/

/-- What gathering makes of an identity's observation so far when it sees a row. -/
def extend (p : Period) (row : Row) : Option Observation → Option Observation
  | none => some (start row p)
  | some o => some (o.see row.snapshot)

/-- Gathering looks at the rows of an identity only. -/
theorem getElem?_foldl_extend (rows : List Row) (p : Period)
    (seen : Std.ExtTreeMap String Observation) (x : String) :
    (rows.foldl (fun seen row => seen.alter row.entity.identity (extend p row)) seen)[x]? =
      (Row.withIdentity x rows).foldl (fun o row => extend p row o) seen[x]? := by
  induction rows generalizing seen with
  | nil => rfl
  | cons row rows ih =>
    rw [List.foldl_cons, ih, Std.ExtTreeMap.getElem?_alter]
    by_cases hid : row.entity.identity = x
    · rw [Row.withIdentity_cons_of_eq rows hid, List.foldl_cons, hid, Std.ReflOrd.compare_self,
        if_pos rfl]
    · rw [Row.withIdentity_cons_of_ne rows hid,
        if_neg fun heq => hid (Std.LawfulEqOrd.eq_of_compare heq)]

/-- More samples of an identity change the last one only. -/
theorem foldl_extend_some (rows : List Row) (p : Period) (o : Observation) :
    rows.foldl (fun o row => extend p row o) (some o) =
      some { o with last := (rows.getLast?.map (·.snapshot)).getD o.last } := by
  induction rows generalizing o with
  | nil => rfl
  | cons row rows ih =>
    rw [List.foldl_cons, extend, ih, List.getLast?_cons]
    cases rows.getLast? <;> rfl

/-- What is gathered for an identity comes from its rows alone, one after the other. -/
theorem getElem?_gather_eq_foldl (rows : List Row) (p : Period) (x : String) :
    (gather rows p)[x]? =
      (Row.withIdentity x rows).foldl (fun o row => extend p row o) none :=
  (getElem?_foldl_extend rows p ∅ x).trans (by rw [Std.ExtTreeMap.getElem?_empty])

/-- An observation is gathered for an identity when the identity has rows: the
    first of them gives the entity and the first sample, the last of them the
    last sample. -/
theorem getElem?_gather {rows : List Row} {p : Period} {x : String} {o : Observation} :
    (gather rows p)[x]? = some o ↔
      ∃ first last, (Row.withIdentity x rows).head? = some first ∧
        (Row.withIdentity x rows).getLast? = some last ∧
        o = ⟨first.entity, first.snapshot, last.snapshot, p⟩ := by
  rw [getElem?_gather_eq_foldl]
  cases Row.withIdentity x rows with
  | nil =>
    constructor
    · intro h
      cases h
    · rintro ⟨first, last, hfirst, -, -⟩
      cases hfirst
  | cons row rest =>
    -- The first row starts the observation, and it is the last one too if no other follows.
    have hlast : (rest.getLast?.map (·.snapshot)).getD row.snapshot =
        (rest.getLast?.getD row).snapshot := by
      cases rest.getLast? <;> rfl
    rw [List.foldl_cons, extend, foldl_extend_some, start, hlast, List.getLast?_cons]
    constructor
    · intro h
      exact ⟨row, _, rfl, rfl, (Option.some.inj h).symm⟩
    · rintro ⟨first, last, hfirst, hlast, rfl⟩
      cases hfirst
      cases hlast
      rfl

/-- An observation is gathered under the identity of its entity. -/
theorem identity_of_getElem?_gather {rows : List Row} {p : Period} {x : String}
    {o : Observation} (h : (gather rows p)[x]? = some o) : o.entity.identity = x := by
  obtain ⟨first, last, hfirst, -, rfl⟩ := getElem?_gather.1 h
  exact (Row.mem_withIdentity.1 (List.mem_of_head? hfirst)).2

/-- The identity of a row has an observation. -/
theorem exists_getElem?_gather {rows : List Row} {row : Row} (h : row ∈ rows) (p : Period) :
    ∃ o, (gather rows p)[row.entity.identity]? = some o := by
  have hne := List.ne_nil_of_mem (Row.mem_withIdentity.2 ⟨h, rfl⟩)
  exact ⟨_, getElem?_gather.2 ⟨_, _, List.head?_eq_some_head hne,
    List.getLast?_eq_some_getLast hne, rfl⟩⟩

/-! ### Observations said without gathering -/

/-- The observation reaches over all rows of an identity: from the earliest of
    them, which also gives the entity, to the latest. -/
structure Spans (rows : List Row) (p : Period) (o : Observation) : Prop where
  first : ∃ row, Row.IsEarliest rows row ∧ o.entity = row.entity ∧ o.first = row.snapshot
  last : ∃ row, Row.IsLatest rows row ∧ row.entity.identity = o.entity.identity ∧
    o.last = row.snapshot
  period : o.period = p

/-- One observation for each identity of the rows, in whatever order. -/
structure Census (rows : List Row) (p : Period) (os : List Observation) : Prop where
  distinct : (os.map (·.entity.identity)).Nodup
  complete : ∀ row ∈ rows, ∃ o ∈ os, o.entity.identity = row.entity.identity
  spans : ∀ o ∈ os, o.Spans rows p

/-- What is gathered from rows in reading order reaches over the rows as they were. -/
theorem getElem?_gather_sort {rows : List Row} {p : Period} {x : String} {o : Observation} :
    (gather (Row.sort rows) p)[x]? = some o ↔ o.entity.identity = x ∧ o.Spans rows p := by
  rw [getElem?_gather]
  constructor
  · rintro ⟨first, last, hfirst, hlast, rfl⟩
    obtain ⟨-, hx⟩ := Row.mem_withIdentity.1 (List.mem_of_head? hfirst)
    obtain ⟨-, hx'⟩ := Row.mem_withIdentity.1 (List.mem_of_getLast? hlast)
    exact ⟨hx, ⟨first, Row.isEarliest_of_head hfirst, rfl, rfl⟩,
      ⟨last, Row.isLatest_of_getLast hlast, hx'.trans hx.symm, rfl⟩, rfl⟩
  · rintro ⟨rfl, ⟨first, hfirst, hentity, hsample⟩, ⟨last, hlast, hid, hsample'⟩, hperiod⟩
    refine ⟨first, last, ?_, ?_, ?_⟩
    · rw [hentity]
      exact hfirst.head?_eq
    · rw [← hid]
      exact hlast.getLast?_eq
    · cases o
      simp only [Observation.mk.injEq]
      exact ⟨hentity, hsample, hsample', hperiod⟩

/-! ### The census of the rows -/

/-- The identities of the gathered observations are the keys that they are gathered under. -/
theorem map_identity_values (rows : List Row) (p : Period) :
    (gather rows p).values.map (·.entity.identity) = (gather rows p).keys := by
  rw [values_eq_map_toList, ← Std.ExtTreeMap.map_fst_toList_eq_keys, List.map_map]
  refine List.map_congr_left fun ⟨x, o⟩ hmem => ?_
  exact identity_of_getElem?_gather (Std.ExtTreeMap.mem_toList_iff_getElem?_eq_some.1 hmem)

/-- The observations of sorted rows are a census. -/
theorem census_gather (rows : List Row) (p : Period) :
    Census rows p (gather (Row.sort rows) p).values := by
  refine ⟨?_, fun row hrow => ?_, fun o ho => ?_⟩
  · rw [map_identity_values]
    exact Std.ExtTreeMap.nodup_keys
  · obtain ⟨o, ho⟩ := exists_getElem?_gather ((Row.sort_perm rows).mem_iff.2 hrow) p
    exact ⟨o, mem_values_iff.2 ⟨_, ho⟩, identity_of_getElem?_gather ho⟩
  · obtain ⟨x, hx⟩ := mem_values_iff.1 ho
    exact (getElem?_gather_sort.1 hx).2

/-- One observation only reaches over the rows of an identity. -/
theorem Spans.unique {rows : List Row} {p : Period} {o o' : Observation} (h : o.Spans rows p)
    (h' : o'.Spans rows p) (hid : o.entity.identity = o'.entity.identity) : o = o' := by
  have ho := getElem?_gather_sort.2 ⟨hid, h⟩
  rw [getElem?_gather_sort.2 ⟨rfl, h'⟩] at ho
  exact (Option.some.inj ho).symm

/-- Every observation of one census is in any other. -/
theorem Census.mem {rows : List Row} {p : Period} {os os' : List Observation}
    (h : Census rows p os) (h' : Census rows p os') {o : Observation} (ho : o ∈ os) : o ∈ os' := by
  obtain ⟨row, hrow, hentity, -⟩ := (h.spans o ho).first
  obtain ⟨o', ho', hid⟩ := h'.complete row hrow.mem
  rw [(h.spans o ho).unique (h'.spans o' ho') (by rw [hentity, hid])]
  exact ho'

/-- A census is one in any order. -/
theorem Census.of_perm {rows : List Row} {p : Period} {os os' : List Observation}
    (h : Census rows p os) (hperm : os.Perm os') : Census rows p os' := by
  refine ⟨(hperm.map _).nodup_iff.1 h.distinct, fun row hrow => ?_, fun o ho => ?_⟩
  · obtain ⟨o, ho, hid⟩ := h.complete row hrow
    exact ⟨o, hperm.mem_iff.1 ho, hid⟩
  · exact h.spans o (hperm.mem_iff.2 ho)

/-- A census begins with the observation of any identity of the rows, in some order. -/
theorem Census.exists_cons {rows : List Row} {p : Period} {os : List Observation}
    (h : Census rows p os) {row : Row} (hrow : row ∈ rows) :
    ∃ o others, os.Perm (o :: others) ∧ o.entity.identity = row.entity.identity ∧
      ∀ o' ∈ others, o'.entity.identity ≠ row.entity.identity := by
  obtain ⟨o, ho, hid⟩ := h.complete row hrow
  obtain ⟨init, rest, rfl⟩ := List.append_of_mem ho
  have hperm : (init ++ o :: rest).Perm (o :: (init ++ rest)) := List.perm_middle
  refine ⟨o, init ++ rest, hperm, hid, fun o' ho' heq => ?_⟩
  have hdistinct := (h.of_perm hperm).distinct
  rw [List.map_cons, List.nodup_cons] at hdistinct
  exact hdistinct.1 (List.mem_map.2 ⟨o', ho', heq.trans hid.symm⟩)

/-- Two lists that are a census of the same rows differ in their order only. -/
theorem Census.perm {rows : List Row} {p : Period} {os os' : List Observation}
    (h : Census rows p os) (h' : Census rows p os') : os.Perm os' := by
  have hnodup : ∀ {l : List Observation}, Census rows p l → l.Nodup := fun hl =>
    (List.pairwise_map.1 hl.distinct).imp fun hne heq => hne (congrArg (·.entity.identity) heq)
  exact (List.perm_ext_iff_of_nodup (hnodup h) (hnodup h')).2 fun o => ⟨h.mem h', h'.mem h⟩

end Observation

end Metering
