import Mathlib.Data.List.Nodup
import Metering.Proofs.Summary
import Metering.Proofs.Summing

/-!
# Groups on their own

What a report says of a group comes from the rows of the identities that belong to the
group, and from no other row. Of these, only what was sampled matters, and which rows belong
together: identities may be called otherwise, as long as they stay apart, although their
rows are then read in another order.

* `Row.ofGroup`: the rows of the identities that belong to a group;
* `Row.Renamed`: rows that differ in what identities and resources are called;
* `Report.getElem?_eq_of_perm`: the observations in a group tell its totals, without names;
* `Observation.perm_unnamed_values`: rows that differ in names are gathered to observations
  that differ in names;
* `summary_of_group`: two reports, of whatever stores, agree on a group.
-/

namespace Metering

/-! ### The rows of a group -/

namespace Row

/-- The group of an identity, as its first row has it. -/
def groupOf? (rows : List Row) (x : String) : Option Dimensions :=
  (withIdentity x rows).head?.map (·.entity.dimensions)

/-- The rows of the identities that belong to a group, in their order. -/
def ofGroup (k : Dimensions) (rows : List Row) : List Row :=
  rows.filter fun row => groupOf? rows row.entity.identity = some k

/-- What a row says, whatever its identity and its resource are called. -/
def unnamed (row : Row) : Row where
  entity := { row.entity with identity := "", resourceId := "" }
  snapshot := { row.snapshot with identity := "" }

/-- The same rows, in which identities are called otherwise by a function that keeps them
    apart, and resources in any way. The rows of an identity keep their order; those of
    different identities may be interleaved otherwise. -/
structure Renamed (name : String → String) (rows rows' : List Row) : Prop where
  apart : ∀ a ∈ rows, ∀ b ∈ rows, name a.entity.identity = name b.entity.identity →
    a.entity.identity = b.entity.identity
  onto : ∀ b ∈ rows', ∃ a ∈ rows, name a.entity.identity = b.entity.identity
  rows : ∀ a ∈ rows, (withIdentity a.entity.identity rows).map unnamed =
    (withIdentity (name a.entity.identity) rows').map unnamed

theorem Renamed.refl (rows : List Row) : Renamed id rows rows :=
  ⟨fun _ _ _ _ h => h, fun b hb => ⟨b, hb, rfl⟩, fun _ _ => rfl⟩

variable {k : Dimensions} {rows : List Row} {x : String}

theorem mem_ofGroup {row : Row} :
    row ∈ ofGroup k rows ↔ row ∈ rows ∧ groupOf? rows row.entity.identity = some k := by
  rw [ofGroup, List.mem_filter, decide_eq_true_iff]

/-- An identity that belongs to the group has all its rows there. -/
theorem withIdentity_ofGroup (h : groupOf? rows x = some k) :
    withIdentity x (ofGroup k rows) = withIdentity x rows :=
  withIdentity_filter (groupOf? rows · = some k) (decide_eq_true h) rows

/-- An identity that belongs to the group has a row there. -/
theorem exists_mem_ofGroup (h : groupOf? rows x = some k) :
    ∃ row ∈ ofGroup k rows, row.entity.identity = x := by
  obtain ⟨row, hrow, -⟩ := Option.map_eq_some_iff.1 h
  obtain ⟨hmem, rfl⟩ := mem_withIdentity.1 (List.mem_of_head? hrow)
  exact ⟨row, mem_ofGroup.2 ⟨hmem, h⟩, rfl⟩

/-- The rows of a group are found among those of any identities to which all that belong to
    the group count. -/
theorem ofGroup_sort_filter {mine : String → Bool}
    (h : ∀ row ∈ rows, groupOf? (sort rows) row.entity.identity = some k →
      mine row.entity.identity) :
    ofGroup k (sort (rows.filter (mine ·.entity.identity))) = ofGroup k (sort rows) := by
  have hgroup : ∀ y, mine y →
      groupOf? (sort (rows.filter (mine ·.entity.identity))) y = groupOf? (sort rows) y := by
    intro y hy
    rw [groupOf?, groupOf?, sort_filter, withIdentity_filter mine hy]
  rw [ofGroup, ofGroup]
  simp only [sort_filter, List.filter_filter]
  refine List.filter_congr fun row hrow => ?_
  by_cases hmine : mine row.entity.identity
  · rw [hmine, Bool.and_true, ← sort_filter, hgroup _ hmine]
  · have hother : groupOf? (sort rows) row.entity.identity ≠ some k := fun heq =>
      hmine (h row ((sort_perm rows).mem_iff.1 hrow) heq)
    simp [hmine, hother]

end Row

/-! ### Observations without names -/

/-- What an observation says, whatever its entity and its resource are called. -/
def Observation.unnamed (o : Observation) : Observation where
  entity := { o.entity with identity := "", resourceId := "" }
  first := { o.first with identity := "" }
  last := { o.last with identity := "" }
  period := o.period

namespace Report

open Observation (inGroup inGroup_cons unnamed)

/-- Charging looks at no name. -/
theorem charge_unnamed (r : Report) (o : Observation) : r.charge o.unnamed = r.charge o := rfl

theorem ofObservations_map_unnamed (os : List Observation) :
    ofObservations (os.map unnamed) = ofObservations os := by
  simp only [ofObservations, List.foldl_map, charge_unnamed]

/-- Only the observations in a group count for it. -/
theorem getElem?_ofObservations_inGroup (os : List Observation) (k : Dimensions) :
    (ofObservations (inGroup k os))[k]? = (ofObservations os)[k]? := by
  induction os with
  | nil => rfl
  | cons o os ih =>
    rw [inGroup_cons, ofObservations_cons]
    split
    · next h =>
      subst h
      rw [ofObservations_cons, getElem?_charge_self, getElem?_charge_self, ih]
    · next h => rw [getElem?_charge_of_ne h, ih]

/-- Reports agree on a group if the observations in it do, without names and in any order. -/
theorem getElem?_eq_of_perm {os os' : List Observation} {k : Dimensions}
    (h : ((inGroup k os).map unnamed).Perm ((inGroup k os').map unnamed)) :
    (ofObservations os)[k]? = (ofObservations os')[k]? := by
  rw [← getElem?_ofObservations_inGroup os, ← getElem?_ofObservations_inGroup os',
    ← ofObservations_map_unnamed, ← ofObservations_map_unnamed (inGroup k os'),
    ofObservations_perm h]

end Report

/-! ### Gathering rows that differ in names -/

namespace Observation

variable {rows rows' : List Row} {p : Period} {x y : String} {o : Observation}

/-- Rows of two identities that say the same are gathered to observations that do. -/
theorem exists_gather_of_unnamed
    (h : (Row.withIdentity x rows).map Row.unnamed = (Row.withIdentity y rows').map Row.unnamed)
    (ho : (gather rows p)[x]? = some o) :
    ∃ o', (gather rows' p)[y]? = some o' ∧ o'.unnamed = o.unnamed := by
  obtain ⟨first, last, hfirst, hlast, rfl⟩ := getElem?_gather.1 ho
  have hfirst' := congrArg List.head? h
  have hlast' := congrArg List.getLast? h
  rw [List.head?_map, List.head?_map, hfirst] at hfirst'
  rw [List.getLast?_map, List.getLast?_map, hlast] at hlast'
  obtain ⟨first', hfirst', heq⟩ := Option.map_eq_some_iff.1 hfirst'.symm
  obtain ⟨last', hlast', heq'⟩ := Option.map_eq_some_iff.1 hlast'.symm
  refine ⟨_, getElem?_gather.2 ⟨first', last', hfirst', hlast', rfl⟩, ?_⟩
  simp only [Row.unnamed, Row.mk.injEq] at heq heq'
  simp only [unnamed, heq.1, heq.2, heq'.2]

/-- The group of an observation that is gathered is that of its identity. -/
theorem groupOf?_of_gather (ho : (gather rows p)[x]? = some o) :
    Row.groupOf? rows x = some o.entity.dimensions := by
  obtain ⟨first, last, hfirst, -, rfl⟩ := getElem?_gather.1 ho
  rw [Row.groupOf?, hfirst]
  rfl

theorem mem_inGroup_gather {k : Dimensions} :
    o ∈ inGroup k (gather rows p).values ↔
      (gather rows p)[o.entity.identity]? = some o ∧
        Row.groupOf? rows o.entity.identity = some k := by
  rw [inGroup, List.mem_filter, mem_values_iff, decide_eq_true_iff]
  constructor
  · rintro ⟨⟨x, hx⟩, rfl⟩
    obtain rfl := identity_of_getElem?_gather hx
    exact ⟨hx, groupOf?_of_gather hx⟩
  · rintro ⟨ho, hk⟩
    rw [groupOf?_of_gather ho] at hk
    exact ⟨⟨_, ho⟩, Option.some.inj hk⟩

/-- An identity that belongs to the group has an observation there. -/
theorem exists_mem_inGroup_gather {k : Dimensions} (hk : Row.groupOf? rows x = some k) :
    ∃ o ∈ inGroup k (gather rows p).values, o.entity.identity = x := by
  obtain ⟨first, hfirst, -⟩ := Option.map_eq_some_iff.1 hk
  obtain ⟨hmem, rfl⟩ := Row.mem_withIdentity.1 (List.mem_of_head? hfirst)
  obtain ⟨o, ho⟩ := exists_getElem?_gather hmem p
  have hid := identity_of_getElem?_gather ho
  refine ⟨o, mem_inGroup_gather.2 ?_, hid⟩
  rw [hid]
  exact ⟨ho, hk⟩

theorem nodup_identity_inGroup (rows : List Row) (p : Period) (k : Dimensions) :
    ((inGroup k (gather rows p).values).map (·.entity.identity)).Nodup := by
  refine List.Nodup.sublist (List.filter_sublist.map _) ?_
  rw [map_identity_values]
  exact Std.ExtTreeMap.nodup_keys

variable {k : Dimensions} {name : String → String}

/-- The observation of an identity of the group, in rows that differ in names. -/
theorem exists_of_renamed (h : Row.Renamed name (Row.ofGroup k rows) (Row.ofGroup k rows'))
    (ho : o ∈ inGroup k (gather rows p).values) :
    ∃ o' ∈ inGroup k (gather rows' p).values,
      o'.entity.identity = name o.entity.identity ∧ o'.unnamed = o.unnamed := by
  obtain ⟨ho, hk⟩ := mem_inGroup_gather.1 ho
  obtain ⟨row, hrow, hid⟩ := Row.exists_mem_ofGroup hk
  have hrows := hid ▸ h.rows row hrow
  -- The other rows have one of the new identity in the group, so they have all of them there.
  have hmem : row.unnamed ∈ (Row.withIdentity o.entity.identity (Row.ofGroup k rows)).map
      Row.unnamed := List.mem_map_of_mem (Row.mem_withIdentity.2 ⟨hrow, hid⟩)
  rw [hrows, List.mem_map] at hmem
  obtain ⟨row', hrow', -⟩ := hmem
  obtain ⟨hrow', hid'⟩ := Row.mem_withIdentity.1 hrow'
  have hk' := (Row.mem_ofGroup.1 hrow').2
  rw [hid'] at hk'
  rw [Row.withIdentity_ofGroup hk, Row.withIdentity_ofGroup hk'] at hrows
  obtain ⟨o', ho', heq⟩ := exists_gather_of_unnamed hrows ho
  have hidentity := identity_of_getElem?_gather ho'
  refine ⟨o', mem_inGroup_gather.2 ?_, hidentity, heq⟩
  rw [hidentity]
  exact ⟨ho', hk'⟩

/-- Rows that differ in names are gathered to observations that differ in names. -/
theorem perm_unnamed_values (h : Row.Renamed name (Row.ofGroup k rows) (Row.ofGroup k rows'))
    (p : Period) :
    ((inGroup k (gather rows p).values).map unnamed).Perm
      ((inGroup k (gather rows' p).values).map unnamed) := by
  have hdistinct := nodup_identity_inGroup rows p k
  have hdistinct' := nodup_identity_inGroup rows' p k
  have hnodup : ((inGroup k (gather rows p).values).map fun o =>
      (name o.entity.identity, o.unnamed)).Nodup := by
    refine (List.Nodup.of_map _ hdistinct).map_on fun a ha b hb heq => ?_
    obtain ⟨r, hr, hra⟩ := Row.exists_mem_ofGroup (mem_inGroup_gather.1 ha).2
    obtain ⟨r', hr', hrb⟩ := Row.exists_mem_ofGroup (mem_inGroup_gather.1 hb).2
    have hid := h.apart r hr r' hr' (hra ▸ hrb ▸ congrArg Prod.fst heq)
    exact List.inj_on_of_nodup_map hdistinct ha hb (hra ▸ hrb ▸ hid)
  have hnodup' : ((inGroup k (gather rows' p).values).map fun o =>
      (o.entity.identity, o.unnamed)).Nodup := by
    refine (List.Nodup.of_map _ hdistinct').map_on fun a ha b hb heq => ?_
    exact List.inj_on_of_nodup_map hdistinct' ha hb (congrArg Prod.fst heq)
  -- Beside its new identity, every observation is there once, so it is enough to compare members.
  have htagged : ((inGroup k (gather rows p).values).map fun o =>
        (name o.entity.identity, o.unnamed)).Perm
      ((inGroup k (gather rows' p).values).map fun o => (o.entity.identity, o.unnamed)) := by
    refine (List.perm_ext_iff_of_nodup hnodup hnodup').2 fun entry => ?_
    rw [List.mem_map, List.mem_map]
    constructor
    · rintro ⟨o, ho, rfl⟩
      obtain ⟨o', ho', hid, heq⟩ := exists_of_renamed h ho
      exact ⟨o', ho', by rw [hid, heq]⟩
    · rintro ⟨o', ho', rfl⟩
      -- Its identity has a row that was called otherwise, and an observation before.
      obtain ⟨row', hrow', hid'⟩ := Row.exists_mem_ofGroup (mem_inGroup_gather.1 ho').2
      obtain ⟨row, hrow, hid⟩ := h.onto row' hrow'
      obtain ⟨o, ho, hido⟩ := exists_mem_inGroup_gather (p := p) (Row.mem_ofGroup.1 hrow).2
      obtain ⟨same, hsame, hids, heq⟩ := exists_of_renamed h ho
      obtain rfl : same = o' := List.inj_on_of_nodup_map hdistinct' hsame ho' (by
        rw [hids, hido, hid, hid'])
      exact ⟨o, ho, by rw [hids, heq]⟩
  have hsnd := htagged.map Prod.snd
  rwa [List.map_map, List.map_map] at hsnd

end Observation

/-! ### Reports on a group -/

namespace Reporting

variable {σ τ : Type} [SnapshotStore σ] [SnapshotStore τ]

/-- Two reports on one period, made from the rows of any two stores. They agree on a group,
    which both have or neither has, if the rows of the identities that belong to it are the
    same in both, up to what identities and resources are called; and so they do if the rows
    of some identities are the same and all other identities belong to other groups,
    whatever their rows are, and whether they have any. -/
theorem summary_of_group {policy policy' : FetchPolicy} {p : Period} {s s' : σ} {t t' : τ}
    {rows rows' : List Row} (valid : p.Valid) (fetched : Fetches policy p s rows s')
    (fetched' : Fetches policy' p t rows' t') :
    ∃ report report', (summary policy p).run s = (.ok report, s') ∧
      (summary policy' p).run t = (.ok report', t') ∧
      (∀ (k : Dimensions) (name : String → String),
        Row.Renamed name (Row.ofGroup k (Row.sort rows)) (Row.ofGroup k (Row.sort rows')) →
        report[k]? = report'[k]?) ∧
      ∀ (k : Dimensions) (mine : String → Bool),
        rows.filter (mine ·.entity.identity) = rows'.filter (mine ·.entity.identity) →
        (∀ row ∈ rows, Row.groupOf? (Row.sort rows) row.entity.identity = some k →
          mine row.entity.identity) →
        (∀ row ∈ rows', Row.groupOf? (Row.sort rows') row.entity.identity = some k →
          mine row.entity.identity) →
        report[k]? = report'[k]? := by
  have hagree : ∀ (k : Dimensions) (name : String → String),
      Row.Renamed name (Row.ofGroup k (Row.sort rows)) (Row.ofGroup k (Row.sort rows')) →
      (Report.ofObservations (Observation.gather (Row.sort rows) p).values)[k]? =
        (Report.ofObservations (Observation.gather (Row.sort rows') p).values)[k]? :=
    fun k name renamed => Report.getElem?_eq_of_perm (Observation.perm_unnamed_values renamed p)
  refine ⟨_, _, run_summary_of_fetches valid fetched, run_summary_of_fetches valid fetched',
    hagree, fun k mine hsame howned howned' => hagree k id ?_⟩
  rw [← Row.ofGroup_sort_filter howned, ← Row.ofGroup_sort_filter howned', hsame]
  exact Row.Renamed.refl _

/-- A sample of a machine of another owner, on another resource. -/
def sampleOf (owner resource : String) (row : Row) : Row :=
  { row with entity := { row.entity with ownerId := owner, resourceId := resource } }

/-- Two machines of one owner, one with two samples, and a machine each of two other owners. -/
def named : List Row :=
  [sample "a" "small" 11000000 40, sample "a" "small" 11050000 50,
    sampleOf "other" "vm" (sample "b" "small" 10900000 1), sample "c" "large" 11010000 7,
    sampleOf "third" "vm" (sample "d" "small" 11000000 5)]

/-- The two machines of the owner are called otherwise, so that they are read in another
    order, and run elsewhere. Of the other owners one has a second machine, and another
    counter; the other one has what it had. -/
def renamed : List Row :=
  [sampleOf "owner" "host" (sample "a" "large" 11010000 7),
    sampleOf "other" "vm" (sample "b" "small" 10900000 900),
    sampleOf "other" "vm" (sample "c" "small" 11020000 3),
    sampleOf "third" "vm" (sample "d" "small" 11000000 5),
    sampleOf "owner" "rack" (sample "z" "small" 11000000 40),
    sampleOf "owner" "host" (sample "z" "small" 11050000 50)]

theorem sort_named : Row.sort named = named := List.mergeSort_of_pairwise (by decide +kernel)

theorem sort_renamed : Row.sort renamed = renamed := List.mergeSort_of_pairwise (by decide +kernel)

/-- The reports agree on the owner whose machines are called otherwise, and on the one that
    has what it had. -/
theorem summary_of_group_renamed :
    let name : String → String := fun x => if x = "a" then "z" else "a"
    let k : Dimensions := ⟨"owner", "account", "cluster", "zone"⟩
    let third : Dimensions := ⟨"third", "account", "cluster", "zone"⟩
    Period.Valid ⟨10800000, 11100000⟩ ∧
    Row.Renamed name (Row.ofGroup k (Row.sort named)) (Row.ofGroup k (Row.sort renamed)) ∧
    ∃ report report',
      ((summary {} ⟨10800000, 11100000⟩).run
        ({ latest := [.ok (some 9000000)], rows := [.ok named] } : Script)).1 = .ok report ∧
      ((summary {} ⟨10800000, 11100000⟩).run
        ({ latest := [.ok (some 9000000)], rows := [.ok renamed] } : Script)).1 = .ok report' ∧
      report[k]? = report'[k]? ∧ report[third]? = report'[third]? := by
  intro name k third
  have valid : Period.Valid ⟨10800000, 11100000⟩ := by decide
  have windows : (Search.before 10800000).windows = [⟨3600000, 10800000⟩] := by decide +kernel
  have fetched : ∀ rows, Fetches {} ⟨10800000, 11100000⟩
      ({ latest := [.ok (some 9000000)], rows := [.ok rows] } : Script) rows
      { calls := [.latestIn ⟨3600000, 10800000⟩, .rowsIn ⟨9000000, 14700000⟩] } := by
    intro rows
    refine ⟨some 9000000,
      { rows := [.ok rows], calls := [.latestIn ⟨3600000, 10800000⟩] }, ?_, rfl⟩
    rw [latestBefore, windows]
    rfl
  have hrenamed : Row.Renamed name (Row.ofGroup k (Row.sort named))
      (Row.ofGroup k (Row.sort renamed)) := by
    rw [sort_named, sort_renamed]
    exact ⟨by decide +kernel, by decide +kernel, by decide +kernel⟩
  obtain ⟨report, report', hrun, hrun', hagree, hsame⟩ :=
    summary_of_group valid (fetched named) (fetched renamed)
  refine ⟨valid, hrenamed, report, report', congrArg Prod.fst hrun, congrArg Prod.fst hrun',
    hagree k name hrenamed, hsame third (· = "d") (by decide) ?_ ?_⟩
  · rw [sort_named]
    decide +kernel
  · rw [sort_renamed]
    decide +kernel

end Reporting

end Metering
