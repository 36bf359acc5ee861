import Metering.Proofs.Apportioning
import Metering.Proofs.Idle

/-!
# Samples that share no time with the period

The samples of an entity may end before the period begins, or begin after it has
ended. Such an entity is counted, and nothing else is charged for it. Where the
samples only touch the period, the last of them at its beginning or the first at
its end, no time is shared either, and no seconds are charged; but what the counters
grew by is apportioned as if the samples reached into the period.

* `countedSeconds_of_apart`: no time that is shared, no seconds;
* `usage_of_touching`: the growth is apportioned by what the sampled time leaves;
* `charge_of_apart`: what a report becomes with one more such observation;
* `charged_although_apart`: samples that touch the period and are charged half of
  what the counter grew by.
-/

namespace Metering

/-- The period lies in the range in which instants are exact. -/
structure Period.IsExact (p : Period) : Prop where
  nonneg_beginning : 0 ≤ p.beginningMs.toInt
  ending_le : p.endingMs.toInt ≤ 2 ^ 53

namespace Observation

variable {o : Observation} {c : Counter}

/-! ### Apart from the period -/

/-- The samples share no time with the period: it begins with the last of them or
    later, or it ends with the first of them or sooner. -/
def Apart (o : Observation) : Prop :=
  o.last.timestampMs ≤ o.period.beginningMs ∨ o.period.endingMs ≤ o.first.timestampMs

/-- The samples do not even touch the period. -/
def FarApart (o : Observation) : Prop :=
  o.last.timestampMs < o.period.beginningMs ∨ o.period.endingMs < o.first.timestampMs

/-- The time between the samples. -/
def sampled (o : Observation) : Int := o.last.timestampMs.toInt - o.first.timestampMs.toInt

theorem FarApart.outside (h : o.FarApart) : o.Outside := by
  rw [outside_iff]
  rcases h with h | h <;> rw [Int64.lt_iff_toInt_lt] at h <;> omega

/-- Samples that share no time with the period and are not outside of it touch it:
    all the sampled time lies on one side, and ends or begins there. -/
theorem sampled_eq_of_touching (apart : o.Apart) (hin : ¬o.Outside) :
    o.sampled = o.early ∧ o.last.timestampMs.toInt = o.period.beginningMs.toInt ∨
      o.sampled = o.late ∧ o.first.timestampMs.toInt = o.period.endingMs.toInt := by
  rw [outside_iff] at hin
  simp only [Apart, Int64.le_iff_toInt_le] at apart
  simp only [sampled, early, late]
  omega

/-- Samples that touch the period leave an overlap without any length. -/
theorem durationMs_overlap_of_touching (apart : o.Apart) (hin : ¬o.Outside) :
    o.overlap.durationMs = 0 := by
  rw [outside_iff] at hin
  simp only [Apart, Int64.le_iff_toInt_le] at apart
  rw [← Int64.toInt_inj, overlap, Period.durationMs, Saturation.toInt_sub, Saturation.toInt_max,
    Saturation.toInt_min, Int64.toInt_zero, Saturation.clamp]
  omega

theorem countedSeconds_of_apart (apart : o.Apart) : o.countedSeconds = 0 := by
  rw [countedSeconds]
  split_ifs with hout
  · rfl
  · rw [seconds, durationMs_overlap_of_touching apart hout]
    decide

theorem counted_of_farApart (h : o.FarApart) : o.counted c = 0 := by
  rw [counted, if_pos h.outside]

/-- Samples in order that touch the period are not taken to be outside of it. -/
theorem not_outside_of_touching (valid : o.period.Valid)
    (ordered : o.first.timestampMs ≤ o.last.timestampMs) (touching : ¬o.FarApart) :
    ¬o.Outside := by
  simp only [Period.Valid, FarApart, Int64.lt_iff_toInt_lt, Int64.le_iff_toInt_le]
    at valid ordered touching
  rw [outside_iff]
  omega

/-! ### Touching the period -/

theorem share_zero (duration : Rat) : share 0 duration = 1 := by
  have hone : Rounded.OnGrid 1 := by simpa using Rounded.onGrid_intCast (n := 1) (by norm_num)
  rw [share, zero_div, Rounded.nearest_zero, sub_zero, hone.nearest_eq]

/-- A gap of half a duration at most leaves half of one period's worth. -/
theorem half_le_share {gap duration : Rat} (hd : 0 < duration) (h : 2 * gap ≤ duration) :
    1 / 2 ≤ share gap duration := by
  have hhalf : Rounded.OnGrid (1 / 2) := ⟨1, -1, by norm_num, by norm_num⟩
  have hquotient : gap / duration ≤ 1 / 2 := by
    rw [div_le_iff₀ hd]
    linarith
  have hrounded := hhalf.nearest_le hquotient
  exact hhalf.le_nearest (by linarith)

/-- The usage of samples that touch the period: what the counter grew by, apportioned
    by what the sampled time leaves of one period's worth. -/
theorem usage_of_touching (h : o.IsRegular c) (exact : o.period.IsExact) (valid : o.period.Valid)
    (ordered : o.first.timestampMs ≤ o.last.timestampMs) (apart : o.Apart) (hin : ¬o.Outside) :
    o.usage c = Rounded.truncate (.finite
      (Rounded.nearest (o.grown c * share o.sampled o.span))) := by
  have hspan := span_pos valid
  have hfirst := h.nonneg_first
  have hlast := h.last_le
  have hbeginning := exact.nonneg_beginning
  have hending := exact.ending_le
  have hne : (o.span : Rat) ≠ 0 := by exact_mod_cast hspan.ne'
  have hduration : elapsed o.period.beginningMs o.period.endingMs = .finite o.span := by
    simp only [span] at hspan
    exact elapsed_eq (by omega) (by omega) (by omega)
  rw [Int64.le_iff_toInt_le] at ordered
  have htouch := sampled_eq_of_touching apart hin
  simp only [sampled, early, late, span] at hspan htouch
  simp only [usage]
  rw [growth_eq h, hduration]
  by_cases hearly : 0 < o.early
  · -- The samples end at the beginning of the period.
    have hgap : elapsed o.first.timestampMs o.period.beginningMs = .finite o.sampled := by
      simp only [early] at hearly
      rw [elapsed_eq (by omega) (by omega) (by omega), sampled]
      congr 2
      omega
    have hlate : ¬0 < o.late := by
      simp only [early, late] at hearly ⊢
      omega
    rw [if_pos (early_pos_iff.1 hearly), if_neg (mt late_pos_iff.2 hlate), hgap,
      remainder_eq_share hne, Rounded.mul]
  · by_cases hlate : 0 < o.late
    · -- The samples begin at the end of the period.
      have hgap : elapsed o.period.endingMs o.last.timestampMs = .finite o.sampled := by
        simp only [late] at hlate
        rw [elapsed_eq (by omega) (by omega) (by omega), sampled]
        congr 2
        omega
      rw [if_neg (mt early_pos_iff.2 hearly), if_pos (late_pos_iff.1 hlate), hgap,
        remainder_eq_share hne, Rounded.mul]
    · -- Both samples are at the bound that they touch, and nothing is scaled.
      have hnone : o.sampled = 0 := by
        simp only [early, late, sampled] at hearly hlate ⊢
        omega
      rw [if_neg (mt early_pos_iff.2 hearly), if_neg (mt late_pos_iff.2 hlate), hnone,
        Int.cast_zero, share_zero, mul_one, (onGrid_grown h).nearest_eq]

section Touching

variable (h : o.IsRegular c) (exact : o.period.IsExact) (valid : o.period.Valid)
  (ordered : o.first.timestampMs ≤ o.last.timestampMs) (apart : o.Apart)
include h exact valid ordered apart

/-- Samples that are as far from each other as the period is long leave nothing. -/
theorem counted_of_long (hlong : o.span ≤ o.sampled) : o.counted c = 0 := by
  have hspan : (0 : Rat) < o.span := by exact_mod_cast span_pos valid
  have hgrown : (0 : Rat) ≤ o.grown c := by exact_mod_cast grown_nonneg h
  have hnonneg := Int64.le_iff_toInt_le.1 (o.counted_nonneg c)
  rw [← Int64.toInt_inj]
  refine le_antisymm ?_ hnonneg
  rw [counted, chargedUsage]
  split_ifs with hout hneg
  · exact le_rfl
  · exact le_rfl
  · have hshare : share o.sampled o.span ≤ 0 := by
      simpa using share_le (k := 1) (by norm_num) hspan (by simpa using hlong)
    have hzero : Rounded.OnGrid ((0 : Int) : Rat) := Rounded.onGrid_intCast (by norm_num)
    rw [usage_of_touching h exact valid ordered apart hout]
    refine Rounded.truncate_le le_rfl (hzero.nearest_le ?_)
    rw [Int.cast_zero]
    exact mul_nonpos_of_nonneg_of_nonpos hgrown hshare

/-- Samples that touch the period and are at most half as far from each other as it is
    long are charged at least half of what the counter grew by. -/
theorem half_grown_le_counted (touching : ¬o.FarApart) (hshort : 2 * o.sampled ≤ o.span) :
    o.grown c / 2 ≤ (o.counted c).toInt := by
  have hin := not_outside_of_touching valid ordered touching
  have hspan : (0 : Rat) < o.span := by exact_mod_cast span_pos valid
  have hgrown := grown_nonneg h
  have hgrown' := grown_le h
  have hgap : 2 * (o.sampled : Rat) ≤ o.span := by exact_mod_cast hshort
  have hhalf := half_le_share hspan hgap
  have hgrid : Rounded.OnGrid ((o.grown c / 2 : Int) : Rat) :=
    Rounded.onGrid_intCast (by rw [abs_le]; omega)
  have hproduct : ((o.grown c / 2 : Int) : Rat) ≤ o.grown c * share o.sampled o.span := by
    have hdiv : ((o.grown c / 2 : Int) : Rat) * 2 ≤ o.grown c := by
      exact_mod_cast Int.ediv_mul_le _ two_ne_zero
    have hpos : (0 : Rat) ≤ o.grown c := by exact_mod_cast hgrown
    nlinarith
  have husage : o.grown c / 2 ≤ (o.usage c).toInt := by
    rw [usage_of_touching h exact valid ordered apart hin]
    exact Rounded.le_truncate (by omega) (by omega) (hgrid.le_nearest hproduct)
  rw [counted, if_neg hin, chargedUsage]
  split_ifs with hneg
  · rw [Int64.lt_iff_toInt_lt, Int64.toInt_zero] at hneg
    omega
  · exact husage

end Touching

/-- What is charged for samples that share no time with the period is within the growth. -/
theorem counted_le_grown_of_apart (h : o.IsRegular c) (valid : o.period.Valid)
    (apart : o.Apart) : (o.counted c).toInt ≤ o.grown c := by
  have hspan := span_pos valid
  refine counted_le_grown h valid ?_
  simp only [Apart, Int64.le_iff_toInt_le] at apart
  simp only [early, late, span] at hspan ⊢
  omega

/-! ### Reports -/

/-- An observation that shares no time with the period touches its own group only, and
    is counted there under its kind, with no seconds. Its counters add nothing if it does
    not touch the period either, if they did not move, or if it takes as long as the
    period. But if it touches the period and takes half as long at most, at least half of
    what they grew by is added. -/
theorem charge_of_apart (valid : o.period.Valid)
    (ordered : o.first.timestampMs ≤ o.last.timestampMs) (apart : o.Apart) (r : Report) :
    let before := r[o.entity.dimensions]?.getD {}
    ∃ totals, (r.charge o)[o.entity.dimensions]? = some totals ∧
      (∀ k, k ≠ o.entity.dimensions → (r.charge o)[k]? = r[k]?) ∧
      totals.secondsByType =
        before.secondsByType.alter o.entity.resourceType (fun sum => some (sum.getD 0)) ∧
      totals.countByType =
        before.countByType.alter o.entity.resourceType (fun count => some (count.getD 0 + 1)) ∧
      (∀ c, (o.FarApart ∨ o.first.reading c = o.last.reading c ∨
          o.IsRegular c ∧ o.period.IsExact ∧ o.span ≤ o.sampled) →
        totals.amount c = before.amount c) ∧
      ∀ c, o.IsRegular c → o.period.IsExact → ¬o.FarApart → 2 * o.sampled ≤ o.span →
        ∃ megs, totals.amount c = Saturation.add (before.amount c) megs ∧
          o.grown c / 2 ≤ megs.toInt ∧ megs.toInt ≤ o.grown c := by
  intro before
  refine ⟨before.charge o, r.getElem?_charge_self o, fun k hk => ?_, ?_, ?_, fun c hnone => ?_,
    fun c regular exact touching hshort => ?_⟩
  · exact Report.getElem?_charge_of_ne hk
  · simp only [Totals.charge_eq, Totals.addEntity, Totals.addDiskIo, Totals.addNetworkIo,
      countedSeconds_of_apart apart, Saturation.add_zero]
  · simp only [Totals.charge_eq, Totals.addEntity, Totals.addDiskIo, Totals.addNetworkIo]
  · have hcounted : o.counted c = 0 := by
      rcases hnone with hfar | hidle | ⟨regular, exact, hlong⟩
      · exact counted_of_farApart hfar
      · exact counted_of_idle hidle
      · exact counted_of_long regular exact valid ordered apart hlong
    rw [Totals.amount_charge, hcounted, Saturation.add_zero]
  · exact ⟨o.counted c, Totals.amount_charge before o c,
      half_grown_le_counted regular exact valid ordered apart touching hshort,
      counted_le_grown_of_apart regular valid apart⟩

/-- Samples that end where the period begins, and are as far from each other as it is
    long: the entity is counted, and neither counter adds anything. -/
theorem charge_of_apart_long :
    let o : Observation :=
      ⟨⟨"a", "vm", "small", "owner", "account", "cluster", "zone"⟩, ⟨"a", 0, 0, 0⟩,
        ⟨"a", 10, 7, 8⟩, ⟨10, 20⟩⟩
    o.period.Valid ∧ o.first.timestampMs ≤ o.last.timestampMs ∧ o.Apart ∧ ¬o.FarApart ∧
      ∃ totals, (Report.charge ∅ o)[o.entity.dimensions]? = some totals ∧
        totals.countByType = (∅ : Std.ExtTreeMap String UInt64).alter "small"
          (fun count => some (count.getD 0 + 1)) ∧
        ∀ c, totals.amount c = 0 := by
  intro o
  have valid : o.period.Valid := by decide
  have ordered : o.first.timestampMs ≤ o.last.timestampMs := by decide
  have apart : o.Apart := .inl (by decide)
  have touching : ¬o.FarApart := by
    rintro (h | h)
    · exact absurd h (by decide)
    · exact absurd h (by decide)
  have regular (c : Counter) : o.IsRegular c :=
    ⟨by decide, by decide, by cases c <;> decide, by cases c <;> decide, by cases c <;> decide⟩
  obtain ⟨totals, htotals, -, -, hcount, hamount, -⟩ := charge_of_apart valid ordered apart ∅
  rw [Std.ExtTreeMap.getElem?_empty, Option.getD_none] at hcount hamount
  refine ⟨valid, ordered, apart, touching, totals, htotals, hcount, fun c => ?_⟩
  rw [hamount c (.inr (.inr ⟨regular c, ⟨by decide, by decide⟩, by decide⟩))]
  cases c <;> rfl

/-- Samples that end where the period begins, and are half as far from each other as it
    is long. A counter that grows by 100 is charged with 50. -/
theorem charged_although_apart :
    let o : Observation :=
      ⟨⟨"a", "vm", "small", "owner", "account", "cluster", "zone"⟩, ⟨"a", 5, 0, 0⟩,
        ⟨"a", 10, 100, 100⟩, ⟨10, 20⟩⟩
    o.period.Valid ∧ o.first.timestampMs ≤ o.last.timestampMs ∧ o.Apart ∧
      ∃ totals, (Report.charge ∅ o)[o.entity.dimensions]? = some totals ∧
        totals.amount .diskIo = 50 ∧ totals.amount .diskIo ≠ ({} : Totals).amount .diskIo := by
  intro o
  obtain ⟨totals, htotals, hamount⟩ := Report.exists_getElem?_charge_empty o .diskIo
  have hcounted : o.counted .diskIo = 50 := by decide +kernel
  refine ⟨by decide, by decide, .inl (by decide), totals, htotals, hamount.trans hcounted, ?_⟩
  rw [hamount, hcounted]
  decide

end Observation

end Metering
