import Metering.Proofs.Summing

/-!
# Reports in parts

A fleet can be reported in parts. Two reports are merged group by group, and what
both have of a group is added, counter by counter and kind by kind. The merged
report of two lists of observations is the report of all of them, also where a
part has reached the end of the 64-bit range.

* `merged`: two maps as one, by a function for what both have;
* `Totals.merge`, `Report.merge`: totals, and reports, as one;
* `Report.Exact.merge`: merged exact reports are exact;
* `Report.ofObservations_exact`: what a report is, in whatever order, or in
  whatever parts, it is made.
-/

namespace Metering

open Observation (exactUsage exactSeconds ofKind inGroup)

/-! ### Merging maps -/

section Maps

variable {α β : Type} {cmp : α → α → Ordering} [Std.TransCmp cmp] [Std.LawfulEqCmp cmp]
  (f : β → β → β) {m m' : Std.ExtTreeMap α β cmp}

/-- The map with the keys of both maps; `f` makes one value of two. -/
def merged (m m' : Std.ExtTreeMap α β cmp) : Std.ExtTreeMap α β cmp :=
  m'.foldl (fun m k b => m.alter k fun a => a.merge f (some b)) m

/-- Of entries with distinct keys, the one at a key is merged into the value there. -/
theorem getElem?_foldl_merge {entries : List (α × β)} (h : (entries.map (·.1)).Nodup) {k : α}
    {v : Option β} (hv : ∀ b, v = some b ↔ (k, b) ∈ entries) (m : Std.ExtTreeMap α β cmp) :
    (entries.foldl (fun m e => m.alter e.1 fun a => a.merge f (some e.2)) m)[k]? =
      m[k]?.merge f v := by
  induction entries generalizing m v with
  | nil =>
    obtain rfl : v = none := by
      cases v with
      | none => rfl
      | some b => exact absurd ((hv b).1 rfl) List.not_mem_nil
    rw [List.foldl_nil, Option.merge_none_right]
  | cons e entries ih =>
    obtain ⟨j, b⟩ := e
    obtain ⟨hnew, hrest⟩ := List.nodup_cons.1 h
    rw [List.foldl_cons]
    by_cases hk : j = k
    · subst hk
      -- No other entry is at this key.
      obtain rfl : v = some b := (hv b).2 List.mem_cons_self
      have hothers : ∀ b', none = some b' ↔ (j, b') ∈ entries := fun b' =>
        ⟨nofun, fun hmem => absurd (List.mem_map.2 ⟨_, hmem, rfl⟩) hnew⟩
      rw [ih hrest hothers, Option.merge_none_right, Std.ExtTreeMap.getElem?_alter_self]
    · have hothers : ∀ b', v = some b' ↔ (k, b') ∈ entries := fun b' => by
        rw [hv b', List.mem_cons, or_iff_right fun heq => hk (congrArg Prod.fst heq).symm]
      rw [ih hrest hothers, Std.ExtTreeMap.getElem?_alter,
        if_neg fun heq => hk (Std.LawfulEqCmp.eq_of_compare heq)]

theorem getElem?_merged (k : α) : (merged f m m')[k]? = m[k]?.merge f m'[k]? := by
  have hdistinct : (m'.toList.map (·.1)).Nodup := by
    rw [Std.ExtTreeMap.map_fst_toList_eq_keys]
    exact Std.ExtTreeMap.nodup_keys
  rw [merged, Std.ExtTreeMap.foldl_eq_foldl_toList]
  exact getElem?_foldl_merge f hdistinct
    (fun b => Std.ExtTreeMap.mem_toList_iff_getElem?_eq_some.symm) m

theorem mem_merged {k : α} : k ∈ merged f m m' ↔ k ∈ m ∨ k ∈ m' := by
  simp only [Std.ExtTreeMap.mem_iff_isSome_getElem?, getElem?_merged, Option.isSome_merge,
    Bool.or_eq_true]

/-- Where a map has no value, it may as well have one that adds nothing. -/
theorem getD_getElem?_merged (b : β) [Std.LawfulIdentity f b] (k : α) :
    (merged f m m')[k]?.getD b = f (m[k]?.getD b) (m'[k]?.getD b) := by
  rw [getElem?_merged]
  cases m[k]? with
  | none =>
    rw [Option.merge_none_left, Option.getD_none]
    exact (Std.LawfulLeftIdentity.left_id _).symm
  | some _ =>
    cases m'[k]? with
    | none =>
      rw [Option.merge_none_right, Option.getD_none]
      exact (Std.LawfulRightIdentity.right_id _).symm
    | some _ => rfl

instance instLawfulIdentityMerged :
    Std.LawfulIdentity (merged f) (∅ : Std.ExtTreeMap α β cmp) where
  left_id m := Std.ExtTreeMap.ext_getElem? fun k => by
    rw [getElem?_merged, Std.ExtTreeMap.getElem?_empty, Option.merge_none_left]
  right_id m := Std.ExtTreeMap.ext_getElem? fun k => by
    rw [getElem?_merged, Std.ExtTreeMap.getElem?_empty, Option.merge_none_right]

end Maps

/-! ### Merging totals -/

instance instLawfulIdentityAdd : Std.LawfulIdentity Saturation.add 0 where
  left_id := Saturation.zero_add
  right_id := Saturation.add_zero

namespace Totals

/-- The totals of two groups as one. -/
def merge (t u : Totals) : Totals where
  diskIoMegs := Saturation.add t.diskIoMegs u.diskIoMegs
  networkIoMegs := Saturation.add t.networkIoMegs u.networkIoMegs
  secondsByType := merged Saturation.add t.secondsByType u.secondsByType
  countByType := merged (· + ·) t.countByType u.countByType

theorem amount_merge (t u : Totals) (c : Counter) :
    (t.merge u).amount c = Saturation.add (t.amount c) (u.amount c) := by
  cases c <;> rfl

instance instLawfulIdentityMerge : Std.LawfulIdentity merge {} where
  left_id t := by
    simp only [merge, Std.LawfulLeftIdentity.left_id]
  right_id t := by
    simp only [merge, Std.LawfulRightIdentity.right_id]

variable {t u : Totals} {xs ys : List Observation}

/-- The exact totals of two lists of observations are merged to those of both. -/
theorem Exact.merge (h : t.Exact xs) (h' : u.Exact ys) : (t.merge u).Exact (xs ++ ys) where
  amount c := by
    rw [amount_merge, exactUsage, Observation.exactSum_append]
    exact Saturation.toInt_add_of_min (Observation.exactUsage_nonneg c xs)
      (Observation.exactUsage_nonneg c ys) (h.amount c) (h'.amount c)
  seconds kind := by
    have hsum : (t.merge u).seconds kind = Saturation.add (t.seconds kind) (u.seconds kind) :=
      getD_getElem?_merged Saturation.add 0 kind
    rw [hsum, ofKind, List.filter_append, exactSeconds, Observation.exactSum_append]
    exact Saturation.toInt_add_of_min (Observation.exactSeconds_nonneg _)
      (Observation.exactSeconds_nonneg _) (h.seconds kind) (h'.seconds kind)
  count kind := by
    have hsum : (t.merge u).count kind = t.count kind + u.count kind :=
      getD_getElem?_merged (· + ·) 0 kind
    rw [hsum, h.count, h'.count, ofKind, ofKind, ofKind, List.filter_append, List.length_append,
      UInt64.ofNat_add]
  timed kind := by
    rw [Totals.merge, mem_merged, h.timed, h'.timed]
    simp only [List.mem_append, or_and_right, exists_or]
  counted kind := by
    rw [Totals.merge, mem_merged, h.counted, h'.counted]
    simp only [List.mem_append, or_and_right, exists_or]

end Totals

/-! ### Merging reports -/

namespace Report

/-- Two reports as one: a group that both have has the totals of both. -/
def merge (r s : Report) : Report := merged Totals.merge r s

variable {r s : Report} {xs ys : List Observation}

theorem Exact.merge (h : r.Exact xs) (h' : s.Exact ys) : (r.merge s).Exact (xs ++ ys) where
  groups k := by
    rw [Report.merge, mem_merged, h.groups, h'.groups]
    simp only [List.mem_append, or_and_right, exists_or]
  totals k := by
    have hsum : (r.merge s).totals k = (r.totals k).merge (s.totals k) :=
      getD_getElem?_merged Totals.merge {} k
    rw [hsum, inGroup, List.filter_append]
    exact (h.totals k).merge (h'.totals k)

/-- The report of observations in two parts is made of the reports of the parts. -/
theorem ofObservations_append (xs ys : List Observation) :
    ofObservations (xs ++ ys) = (ofObservations xs).merge (ofObservations ys) :=
  (exact_ofObservations (xs ++ ys)).unique
    ((exact_ofObservations xs).merge (exact_ofObservations ys))

/-- A report has the groups of what was observed, whatever the periods and the samples.
    It gives each of them exact sums that have stopped once, of the observations in the
    group that are not outside of their period, and counts every observation under its
    kind. The order of the observations is free, and a report in parts is merged to the
    report of all. -/
theorem ofObservations_exact {os : List Observation} (hlength : os.length < UInt64.size) :
    (∀ k, k ∈ ofObservations os ↔ ∃ o ∈ os, o.entity.dimensions = k) ∧
    (∀ k totals, (ofObservations os)[k]? = some totals → totals.Exact (inGroup k os) ∧
      ∀ kind, (totals.count kind).toNat = (ofKind kind (inGroup k os)).length) ∧
    (∀ os', os.Perm os' → ofObservations os' = ofObservations os) ∧
    ∀ os', ofObservations (os ++ os') = (ofObservations os).merge (ofObservations os') := by
  have hexact := exact_ofObservations os
  refine ⟨hexact.groups, fun k totals htotals => ?_, fun os' h => (ofObservations_perm h).symm,
    ofObservations_append os⟩
  have hgroup : (ofObservations os).totals k = totals := by
    rw [Report.totals, htotals, Option.getD_some]
  have hgroup := hgroup ▸ hexact.totals k
  refine ⟨hgroup, fun kind => ?_⟩
  have hkind : (ofKind kind (inGroup k os)).length ≤ os.length :=
    (List.length_filter_le _ _).trans (List.length_filter_le _ _)
  rw [hgroup.count, UInt64.toNat_ofNat_of_lt' (Nat.lt_of_le_of_lt hkind hlength)]

/-- Four machines of one group and one of another: a disk counter that grows by almost
    all that a counter can show, twice, so that the sum stops; a network counter that
    goes backwards; and samples before the period. -/
theorem ofObservations_exact_stopped :
    let entity : String → String → String → Entity := fun x kind owner =>
      ⟨x, "vm", kind, owner, "account", "cluster", "zone"⟩
    let p : Period := ⟨10000, 20000⟩
    let os : List Observation := [
      ⟨entity "a" "small" "owner", ⟨"a", 10000, 0, 0⟩, ⟨"a", 20000, 9000000000000000000, 7⟩, p⟩,
      ⟨entity "b" "large" "other", ⟨"b", 11000, 0, 0⟩, ⟨"b", 12000, 1, 1⟩, p⟩,
      ⟨entity "c" "small" "owner", ⟨"c", 12000, 0, 9⟩, ⟨"c", 15500, 9000000000000000000, 3⟩, p⟩,
      ⟨entity "d" "small" "owner", ⟨"d", 1000, 0, 0⟩, ⟨"d", 2000, 50, 50⟩, p⟩]
    let k := (entity "a" "small" "owner").dimensions
    os.length < UInt64.size ∧ ∃ totals, (ofObservations os)[k]? = some totals ∧
      (totals.amount .diskIo).toInt = Int64.maxValue.toInt ∧
      (totals.amount .networkIo).toInt = 7 ∧ (totals.seconds "small").toInt = 13 ∧
      (totals.count "small").toNat = 3 ∧ "large" ∉ totals.countByType ∧
      ofObservations os.reverse = ofObservations os := by
  intro entity p os k
  have hlength : os.length < UInt64.size := by decide
  obtain ⟨hgroups, htotals, hperm, -⟩ := ofObservations_exact hlength
  have hk : k ∈ ofObservations os := (hgroups k).2 ⟨_, List.mem_cons_self, rfl⟩
  rw [Std.ExtTreeMap.mem_iff_isSome_getElem?, Option.isSome_iff_exists] at hk
  obtain ⟨totals, hk⟩ := hk
  obtain ⟨hexact, hcount⟩ := htotals k totals hk
  refine ⟨hlength, totals, hk, ?_, ?_, ?_, ?_, ?_, hperm _ (List.reverse_perm os).symm⟩
  · rw [hexact.amount]
    decide +kernel
  · rw [hexact.amount]
    decide +kernel
  · rw [hexact.seconds]
    decide +kernel
  · rw [hcount]
    decide +kernel
  · rw [hexact.counted]
    decide +kernel

end Report

end Metering
