import Metering.Proofs.Summing

/-!
# Seconds within a period

The time that an entity is charged for lies within the period of the report. Every step on
the way there may stop at an end of the 64-bit range: the length of the overlap, that of the
period, and the sum over the entities of a kind. None of them lets the time grow beyond the
period, so the seconds of a kind are at most those of the period for each of its entities.

* `Observation.durationMs_overlap_le`: an overlap is not longer than its period;
* `Observation.countedSeconds_le`: nor are the seconds that are charged;
* `Report.seconds_within_period`: the seconds of a kind against the number of its entities.
-/

namespace Metering

namespace Observation

/-- The overlap begins no earlier than the period and ends no later, and where its length
    stops at an end of the range, that of the period has not passed it. -/
theorem durationMs_overlap_le (o : Observation) :
    o.overlap.durationMs.toInt ≤ o.period.durationMs.toInt := by
  rw [overlap, Period.durationMs, Period.durationMs, Saturation.toInt_sub, Saturation.toInt_sub,
    Saturation.toInt_max, Saturation.toInt_min, Saturation.clamp, Saturation.clamp]
  omega

/-- The whole seconds of a period. -/
theorem toInt_durationMs_div (p : Period) :
    (p.durationMs / 1000).toInt = p.durationMs.toInt.tdiv 1000 :=
  Int64.toInt_div_of_ne_right _ _ (by decide)

/-- No entity is charged for more time than its period lasts. -/
theorem countedSeconds_le (o : Observation) (valid : o.period.Valid) :
    o.countedSeconds.toInt ≤ (o.period.durationMs / 1000).toInt := by
  have hoverlap := o.durationMs_overlap_le
  have hperiod : 0 ≤ o.period.durationMs.toInt := by
    rw [Period.Valid, Int64.lt_iff_toInt_lt] at valid
    rw [Period.durationMs, Saturation.toInt_sub, Saturation.clamp]
    omega
  rw [toInt_durationMs_div, Int.tdiv_eq_ediv_of_nonneg hperiod, countedSeconds]
  split
  · rw [Int64.toInt_zero]
    omega
  · next hin =>
    have hnonneg : 0 ≤ o.overlap.durationMs := Std.not_lt.1 hin
    rw [Int64.le_iff_toInt_le, Int64.toInt_zero] at hnonneg
    rw [seconds, toInt_durationMs_div, Int.tdiv_eq_ediv_of_nonneg hnonneg]
    omega

/-- Terms of at most `b` seconds each add up to at most as many times `b`. -/
theorem exactSeconds_le {b : Int} {os : List Observation}
    (h : ∀ o ∈ os, o.countedSeconds.toInt ≤ b) : exactSeconds os ≤ os.length * b := by
  induction os with
  | nil => exact Int.le_of_eq (Int.zero_mul b).symm
  | cons o os ih =>
    rw [List.forall_mem_cons] at h
    rw [exactSeconds_cons, List.length_cons, Int.natCast_add, Int.add_mul, Int.natCast_one,
      Int.one_mul, Int.add_comm]
    exact Int.add_le_add (ih h.2) h.1

end Observation

namespace Report

open Observation (ofKind inGroup exactSeconds)

/-- In a report on a period that begins before it ends, whatever the samples, every entity
    is charged for at most the seconds of the period. A kind of resource has seconds in a
    group if it has a count there. The seconds are not negative, and at most those of the
    period for each entity of the kind in the group, and so for each one that is counted, as
    long as these are no more than a count can hold. -/
theorem seconds_within_period {p : Period} (valid : p.Valid) {os : List Observation}
    (hperiod : ∀ o ∈ os, o.period = p) :
    (∀ o ∈ os, 0 ≤ o.countedSeconds.toInt ∧
      o.countedSeconds.toInt ≤ (p.durationMs / 1000).toInt) ∧
    ∀ k totals, (ofObservations os)[k]? = some totals →
      ∀ kind sum, totals.secondsByType[kind]? = some sum →
        0 ≤ sum.toInt ∧
        sum.toInt ≤ (ofKind kind (inGroup k os)).length * (p.durationMs / 1000).toInt ∧
        ∃ count, totals.countByType[kind]? = some count ∧
          count = .ofNat (ofKind kind (inGroup k os)).length ∧
          ((ofKind kind (inGroup k os)).length < UInt64.size →
            sum.toInt ≤ count.toNat * (p.durationMs / 1000).toInt) := by
  have hle : ∀ o ∈ os, o.countedSeconds.toInt ≤ (p.durationMs / 1000).toInt := fun o ho =>
    hperiod o ho ▸ o.countedSeconds_le (by rwa [hperiod o ho])
  refine ⟨fun o ho => ⟨?_, hle o ho⟩, fun k totals htotals kind sum hsum => ?_⟩
  · have hnonneg := o.countedSeconds_nonneg
    rwa [Int64.le_iff_toInt_le, Int64.toInt_zero] at hnonneg
  have hexact := (exact_ofObservations os).totals k
  rw [Report.totals, htotals, Option.getD_some] at hexact
  have hseconds := hexact.seconds kind
  rw [Totals.seconds, hsum, Option.getD_some, Saturation.toInt_maxValue] at hseconds
  have hnonneg := Observation.exactSeconds_nonneg (ofKind kind (inGroup k os))
  have hbound : exactSeconds (ofKind kind (inGroup k os)) ≤
      (ofKind kind (inGroup k os)).length * (p.durationMs / 1000).toInt :=
    Observation.exactSeconds_le fun o ho =>
      hle o (List.mem_of_mem_filter (List.mem_of_mem_filter ho))
  have hsumLe : sum.toInt ≤ (ofKind kind (inGroup k os)).length * (p.durationMs / 1000).toInt :=
    hseconds ▸ (Int.min_le_right _ _).trans hbound
  -- A kind with seconds has an observation, which was counted as well.
  have hcounted : kind ∈ totals.countByType := by
    rw [hexact.counted, ← hexact.timed, Std.ExtTreeMap.mem_iff_isSome_getElem?, hsum]
    rfl
  rw [Std.ExtTreeMap.mem_iff_isSome_getElem?, Option.isSome_iff_exists] at hcounted
  obtain ⟨count, hcount⟩ := hcounted
  have hnumber := hexact.count kind
  rw [Totals.count, hcount, Option.getD_some] at hnumber
  refine ⟨hseconds ▸ Int.le_min.2 ⟨by decide, hnonneg⟩, hsumLe, count, hcount, hnumber,
    fun room => ?_⟩
  rwa [hnumber, UInt64.toNat_ofNat_of_lt' room]

/-- A period over the whole range, whose length stops at the upper end: a machine that was
    sampled throughout, so that its seconds are those of the period, one whose samples are in
    the wrong order, and one with a single sample. -/
theorem seconds_within_period_of_whole_range :
    let entity : String → Entity := fun x =>
      ⟨x, "vm", "small", "owner", "account", "cluster", "zone"⟩
    let p : Period := ⟨Int64.minValue, Int64.maxValue⟩
    let os : List Observation := [
      ⟨entity "a", ⟨"a", Int64.minValue, 0, 0⟩, ⟨"a", Int64.maxValue, 1, 1⟩, p⟩,
      ⟨entity "b", ⟨"b", 5000, 0, 0⟩, ⟨"b", -5000, 1, 1⟩, p⟩,
      ⟨entity "c", ⟨"c", 7000, 0, 0⟩, ⟨"c", 7000, 0, 0⟩, p⟩]
    let k := (entity "a").dimensions
    p.Valid ∧ (∀ o ∈ os, o.period = p) ∧ ∃ totals sum count,
      (ofObservations os)[k]? = some totals ∧ totals.secondsByType["small"]? = some sum ∧
      totals.countByType["small"]? = some count ∧ sum.toInt = 9223372036854775 ∧
      count.toNat = 3 ∧ sum.toInt ≤ 3 * 9223372036854775 := by
  intro entity p os k
  have valid : p.Valid := by decide
  have hperiod : ∀ o ∈ os, o.period = p := by decide
  have hk : k ∈ ofObservations os :=
    ((exact_ofObservations os).groups k).2 ⟨_, List.mem_cons_self, rfl⟩
  rw [Std.ExtTreeMap.mem_iff_isSome_getElem?, Option.isSome_iff_exists] at hk
  obtain ⟨totals, hk⟩ := hk
  have hexact := (exact_ofObservations os).totals k
  rw [Report.totals, hk, Option.getD_some] at hexact
  have hsum : "small" ∈ totals.secondsByType := (hexact.timed "small").2 (by decide +kernel)
  rw [Std.ExtTreeMap.mem_iff_isSome_getElem?, Option.isSome_iff_exists] at hsum
  obtain ⟨sum, hsum⟩ := hsum
  obtain ⟨-, hbounds⟩ := seconds_within_period valid hperiod
  obtain ⟨-, -, count, hcount, hnumber, hle⟩ := hbounds k totals hk "small" sum hsum
  have hlength : (ofKind "small" (inGroup k os)).length = 3 := by decide +kernel
  have hlasts : (p.durationMs / 1000).toInt = 9223372036854775 := by decide +kernel
  rw [hlength] at hnumber hle
  obtain rfl := hnumber
  rw [hlasts] at hle
  have hseconds := hexact.seconds "small"
  rw [Totals.seconds, hsum, Option.getD_some] at hseconds
  exact ⟨valid, hperiod, totals, sum, _, hk, hsum, hcount, hseconds.trans (by decide +kernel), rfl,
    hle (by decide)⟩

end Report

end Metering
