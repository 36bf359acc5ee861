import Metering.Proofs.Charging
import Metering.Proofs.Rounding

/-!
# Usage against growth

The growth of a counter is apportioned to a period by one share for the sampled
time before it and one for that after it. A share is one period's worth less the
overhang on its side, in units of the period: negative for an overhang that is
longer than the period. One negative share makes the usage negative, and what is
negative is not charged; but two of them make it positive again.

* `share_le`, `le_share`: a share in terms of the overhang, in whole periods;
* `usage_le_grown`, `four_mul_grown_le_usage`: usage stays within the growth for
  overhangs that are short on one side, or not very long on either, and is beyond
  it for long ones on both;
* `charged_within_growth`, `charged_beyond_growth`: the same of what is charged.
-/

namespace Metering

namespace Rounded

/-! ### Exact operations -/

theorem ofInt_eq {n : Int} (h : |n| ≤ 2 ^ 53) : ofInt n = finite n :=
  congrArg finite (onGrid_intCast h).nearest_eq

theorem ofInt_sub_ofInt {a b : Int} (ha : 0 ≤ a) (ha' : a ≤ 2 ^ 53) (hb : 0 ≤ b)
    (hb' : b ≤ 2 ^ 53) : (ofInt a).sub (ofInt b) = finite ((a - b : Int) : Rat) := by
  have hdiff : |a - b| ≤ 2 ^ 53 := by rw [abs_le]; omega
  rw [ofInt_eq (by rwa [abs_of_nonneg ha]), ofInt_eq (by rwa [abs_of_nonneg hb]), sub,
    ← Int.cast_sub, (onGrid_intCast hdiff).nearest_eq]

/-! ### Truncation -/

theorem truncate_le {q : Rat} {n : Int} (hn : 0 ≤ n) (h : q ≤ n) :
    (truncate (finite q)).toInt ≤ n := by
  have hfloor : q.num.tdiv q.den ≤ n := by
    rcases le_total 0 q.num with hsign | hsign
    · rw [Int.tdiv_eq_ediv_of_nonneg hsign, ← Rat.floor_def]
      exact_mod_cast (Rat.floor_le q).trans h
    · have hneg := Int.tdiv_nonneg (neg_nonneg.2 hsign) (Int.natCast_nonneg q.den)
      rw [Int.neg_tdiv] at hneg
      omega
  rw [truncate, Saturation.toInt_ofIntClamp, Saturation.clamp]
  omega

theorem le_truncate {q : Rat} {n : Int} (hn : 0 ≤ n) (hn' : n < 2 ^ 63) (h : n ≤ q) :
    n ≤ (truncate (finite q)).toInt := by
  have hq : 0 ≤ q := le_trans (by exact_mod_cast hn) h
  have hfloor : n ≤ q.num.tdiv q.den := by
    rw [Int.tdiv_eq_ediv_of_nonneg (Rat.num_nonneg.2 hq), ← Rat.floor_def]
    exact Rat.le_floor_iff.2 h
  rw [truncate, Saturation.toInt_ofIntClamp, Saturation.clamp]
  omega

end Rounded

namespace Observation

/-! ### What is left of one period's worth -/

/-- What is left of one period's worth without the time `gap`, in numbers. -/
def share (gap duration : Rat) : Rat := Rounded.nearest (1 - Rounded.nearest (gap / duration))

theorem remainder_eq_share {gap duration : Rat} (h : duration ≠ 0) :
    remainder (.finite gap) (.finite duration) = .finite (share gap duration) := by
  rw [remainder, Rounded.ofInt_eq (by norm_num), Rounded.div, if_neg h, Rounded.sub, share,
    Int.cast_one]

section Share

variable {gap duration : Rat} {k : Int}

/-- A gap of `k` durations at least takes away `k` periods' worth. -/
theorem share_le (hk : |k| ≤ 2 ^ 52) (hd : 0 < duration) (h : k * duration ≤ gap) :
    share gap duration ≤ 1 - k := by
  rw [abs_le] at hk
  have hquotient : (k : Rat) ≤ Rounded.nearest (gap / duration) :=
    (Rounded.onGrid_intCast (by rw [abs_le]; omega)).le_nearest ((le_div_iff₀ hd).2 h)
  have hgrid : Rounded.OnGrid ((1 - k : Int) : Rat) :=
    Rounded.onGrid_intCast (by rw [abs_le]; omega)
  push_cast at hgrid
  exact hgrid.nearest_le (by linarith)

/-- A gap of `k` durations at most takes away `k` periods' worth. -/
theorem le_share (hk : |k| ≤ 2 ^ 52) (hd : 0 < duration) (h : gap ≤ k * duration) :
    1 - k ≤ share gap duration := by
  rw [abs_le] at hk
  have hquotient : Rounded.nearest (gap / duration) ≤ k :=
    (Rounded.onGrid_intCast (by rw [abs_le]; omega)).nearest_le ((div_le_iff₀ hd).2 h)
  have hgrid : Rounded.OnGrid ((1 - k : Int) : Rat) :=
    Rounded.onGrid_intCast (by rw [abs_le]; omega)
  push_cast at hgrid
  exact hgrid.le_nearest (by linarith)

theorem share_le_one (hd : 0 < duration) (h : 0 ≤ gap) : share gap duration ≤ 1 := by
  simpa using share_le (k := 0) (by norm_num) hd (by simpa using h)

theorem share_nonneg (hd : 0 < duration) (h : gap ≤ duration) : 0 ≤ share gap duration := by
  simpa using le_share (k := 1) (by norm_num) hd (by simpa using h)

theorem neg_one_le_share (hd : 0 < duration) (h : gap ≤ 2 * duration) :
    -1 ≤ share gap duration := by
  have hle := le_share (k := 2) (by norm_num) hd (by exact_mod_cast h)
  norm_num at hle
  exact hle

theorem share_le_neg_two (hd : 0 < duration) (h : 3 * duration ≤ gap) :
    share gap duration ≤ -2 := by
  have hle := share_le (k := 3) (by norm_num) hd (by exact_mod_cast h)
  norm_num at hle
  exact hle

end Share

/-! ### The usage of regular samples -/

/-- The samples lie in the range in which instants and readings are exact, and the
    counter did not go backwards between them. -/
structure IsRegular (o : Observation) (c : Counter) : Prop where
  nonneg_first : 0 ≤ o.first.timestampMs.toInt
  last_le : o.last.timestampMs.toInt ≤ 2 ^ 53
  nonneg_reading : 0 ≤ (o.first.reading c).toInt
  grows : (o.first.reading c).toInt ≤ (o.last.reading c).toInt
  reading_le : (o.last.reading c).toInt ≤ 2 ^ 53

/-- What the counter grew by between the samples. -/
def grown (o : Observation) (c : Counter) : Int :=
  (o.last.reading c).toInt - (o.first.reading c).toInt

/-- The sampled time before the period. -/
def early (o : Observation) : Int := o.period.beginningMs.toInt - o.first.timestampMs.toInt

/-- The sampled time after the period. -/
def late (o : Observation) : Int := o.last.timestampMs.toInt - o.period.endingMs.toInt

/-- The length of the period. -/
def span (o : Observation) : Int := o.period.endingMs.toInt - o.period.beginningMs.toInt

variable {o : Observation} {c : Counter}

theorem growth_eq (h : o.IsRegular c) : o.growth c = .finite (o.grown c : Rat) :=
  Rounded.ofInt_sub_ofInt (h.nonneg_reading.trans h.grows) h.reading_le h.nonneg_reading
    (h.grows.trans h.reading_le)

theorem grown_nonneg (h : o.IsRegular c) : 0 ≤ o.grown c := sub_nonneg.2 h.grows

theorem grown_le (h : o.IsRegular c) : o.grown c ≤ 2 ^ 53 :=
  (sub_le_self _ h.nonneg_reading).trans h.reading_le

theorem onGrid_grown (h : o.IsRegular c) : Rounded.OnGrid (o.grown c) :=
  Rounded.onGrid_intCast ((abs_of_nonneg (grown_nonneg h)).trans_le (grown_le h))

theorem span_pos (valid : o.period.Valid) : 0 < o.span := by
  rw [Period.Valid, Int64.lt_iff_toInt_lt] at valid
  exact sub_pos.2 valid

theorem early_pos_iff : 0 < o.early ↔ o.first.timestampMs < o.period.beginningMs :=
  sub_pos.trans Int64.lt_iff_toInt_lt.symm

theorem late_pos_iff : 0 < o.late ↔ o.period.endingMs < o.last.timestampMs :=
  sub_pos.trans Int64.lt_iff_toInt_lt.symm

/-- The samples are outside of the period exactly if the overlap is inverted. -/
theorem outside_iff : o.Outside ↔ min o.period.endingMs.toInt o.last.timestampMs.toInt <
    max o.period.beginningMs.toInt o.first.timestampMs.toInt := by
  simp only [Outside, overlap, Period.durationMs, Int64.lt_iff_toInt_lt, Saturation.toInt_sub,
    Int64.toInt_zero, Saturation.clamp, Saturation.toInt_max, Saturation.toInt_min]
  omega

/-! ### Elapsed time -/

/-- Between instants in the exact range, the elapsed time is exact. -/
theorem elapsed_eq {a b : Int64} (ha : 0 ≤ a.toInt) (hab : a.toInt ≤ b.toInt)
    (hb : b.toInt ≤ 2 ^ 53) : elapsed a b = .finite ((b.toInt - a.toInt : Int) : Rat) :=
  Rounded.ofInt_sub_ofInt (ha.trans hab) hb ha (hab.trans hb)

/-- If one of the instants is exact, the elapsed time is at least not negative. -/
theorem exists_elapsed_eq {a b : Int64} (hab : a.toInt ≤ b.toInt)
    (h : |a.toInt| ≤ 2 ^ 53 ∨ |b.toInt| ≤ 2 ^ 53) :
    ∃ d : Rat, 0 ≤ d ∧ elapsed a b = .finite d := by
  refine ⟨_, ?_, rfl⟩
  have hab' : (a.toInt : Rat) ≤ b.toInt := by exact_mod_cast hab
  have hzero : Rounded.OnGrid 0 := by simpa using Rounded.onGrid_intCast (n := 0) (by norm_num)
  refine hzero.le_nearest (sub_nonneg.2 ?_)
  rcases h with h | h
  · have hgrid := Rounded.onGrid_intCast h
    rw [hgrid.nearest_eq]
    exact hgrid.le_nearest hab'
  · have hgrid := Rounded.onGrid_intCast h
    rw [hgrid.nearest_eq]
    exact hgrid.nearest_le hab'

/-! ### An overhang on one side -/

/-- Growth apportioned by what is left after a gap stays within the growth, or is
    not a number at all if the period is too short for its bounds to be told apart. -/
theorem truncate_mul_remainder_le {n : Int} {gap duration : Rat} (hn : 0 ≤ n)
    (hn' : n ≤ 2 ^ 53) (hgap : 0 < gap) (hduration : 0 ≤ duration) :
    (((Rounded.finite n).mul
      (remainder (.finite gap) (.finite duration))).truncate).toInt ≤ n := by
  rcases hduration.eq_or_lt with rfl | hpos
  · have hinfinite : remainder (.finite gap) (.finite 0) = .infinite true := by
      rw [remainder, Rounded.ofInt_eq (by norm_num), Rounded.div, if_pos rfl, if_neg hgap.ne',
        decide_eq_false (not_lt.2 hgap.le)]
      rfl
    have hnonneg : ¬(n : Rat) < 0 := not_lt.2 (by exact_mod_cast hn)
    rw [hinfinite, Rounded.mul, Rounded.scaleInfinite, decide_eq_false hnonneg]
    split_ifs
    · exact hn
    · exact le_trans (by decide) hn
  · have hle := share_le_one hpos hgap.le
    have hproduct : (n : Rat) * share gap duration ≤ n := by
      have : (0 : Rat) ≤ n := by exact_mod_cast hn
      nlinarith
    rw [remainder_eq_share hpos.ne', Rounded.mul]
    refine Rounded.truncate_le hn ((Rounded.onGrid_intCast ?_).nearest_le hproduct)
    rwa [abs_of_nonneg hn]

/-- With an overhang before the period only, the usage is within the growth. -/
theorem usage_le_grown_of_early (h : o.IsRegular c) (valid : o.period.Valid) (hin : ¬o.Outside)
    (hearly : 0 < o.early) (hlate : ¬0 < o.late) : (o.usage c).toInt ≤ o.grown c := by
  have hspan := span_pos valid
  have hfirst := h.nonneg_first
  have hlast := h.last_le
  have hgap : (0 : Rat) < o.early := by exact_mod_cast hearly
  simp only [usage]
  rw [if_pos (early_pos_iff.1 hearly), if_neg (mt late_pos_iff.2 hlate), growth_eq h]
  -- The period begins between the samples, so only its end may be inexact.
  rw [outside_iff] at hin
  simp only [early, span] at hearly hspan
  obtain ⟨d, hd, hduration⟩ := exists_elapsed_eq (a := o.period.beginningMs)
    (b := o.period.endingMs) (by omega) (.inl (by rw [abs_le]; omega))
  rw [hduration, elapsed_eq (by omega) (by omega) (by omega), ← early]
  exact truncate_mul_remainder_le (grown_nonneg h) (grown_le h) hgap hd

/-- With an overhang after the period only, the usage is within the growth. -/
theorem usage_le_grown_of_late (h : o.IsRegular c) (valid : o.period.Valid) (hin : ¬o.Outside)
    (hearly : ¬0 < o.early) (hlate : 0 < o.late) : (o.usage c).toInt ≤ o.grown c := by
  have hspan := span_pos valid
  have hfirst := h.nonneg_first
  have hlast := h.last_le
  have hgap : (0 : Rat) < o.late := by exact_mod_cast hlate
  simp only [usage]
  rw [if_neg (mt early_pos_iff.2 hearly), if_pos (late_pos_iff.1 hlate), growth_eq h]
  -- The period ends between the samples, so only its beginning may be inexact.
  rw [outside_iff] at hin
  simp only [late, span] at hlate hspan
  obtain ⟨d, hd, hduration⟩ := exists_elapsed_eq (a := o.period.beginningMs)
    (b := o.period.endingMs) (by omega) (.inr (by rw [abs_le]; omega))
  rw [hduration, elapsed_eq (by omega) (by omega) (by omega), ← late]
  exact truncate_mul_remainder_le (grown_nonneg h) (grown_le h) hgap hd

/-! ### Overhangs on both sides -/

/-- The usage of samples on both sides of the period: the growth, apportioned twice. -/
theorem usage_of_both (h : o.IsRegular c) (valid : o.period.Valid) (hearly : 0 < o.early)
    (hlate : 0 < o.late) :
    o.usage c = Rounded.truncate (.finite (Rounded.nearest
      (Rounded.nearest (o.grown c * share o.early o.span) * share o.late o.span))) := by
  have hspan := span_pos valid
  have hfirst := h.nonneg_first
  have hlast := h.last_le
  have hne : (o.span : Rat) ≠ 0 := by exact_mod_cast hspan.ne'
  simp only [usage]
  rw [if_pos (early_pos_iff.1 hearly), if_pos (late_pos_iff.1 hlate), growth_eq h]
  -- Both bounds of the period lie between the samples, so all three times are exact.
  simp only [early, late, span] at hearly hlate hspan
  rw [elapsed_eq (by omega) (by omega) (by omega), elapsed_eq (by omega) (by omega) (by omega),
    elapsed_eq (by omega) (by omega) (by omega), ← span, ← early, ← late,
    remainder_eq_share hne, remainder_eq_share hne, Rounded.mul, Rounded.mul]

section Both

variable {n s t : Rat}

/-- What is apportioned twice stays within the growth, unless both shares are
    negative and one of them is more than one period's worth. -/
theorem nearest_mul_mul_le (hn : 0 ≤ n) (hgrid : Rounded.OnGrid n) (hs : s ≤ 1) (ht : t ≤ 1)
    (h : 0 ≤ s ∨ 0 ≤ t ∨ -1 ≤ s ∧ -1 ≤ t) :
    Rounded.nearest (Rounded.nearest (n * s) * t) ≤ n := by
  have hzero : Rounded.OnGrid 0 := by simpa using Rounded.onGrid_intCast (n := 0) (by norm_num)
  have hupper : Rounded.nearest (n * s) ≤ n := hgrid.nearest_le (by nlinarith)
  refine hgrid.nearest_le ?_
  rcases h with hs' | ht' | ⟨hs', ht'⟩
  · have hlower : 0 ≤ Rounded.nearest (n * s) := hzero.le_nearest (by positivity)
    nlinarith
  · nlinarith
  · have hlower : -n ≤ Rounded.nearest (n * s) := hgrid.neg.le_nearest (by nlinarith)
    nlinarith

/-- Two shares of minus two periods' worth or less make four times the growth. -/
theorem four_mul_le_nearest_mul_mul (hn : 0 ≤ n) (hgrid : Rounded.OnGrid n) (hs : s ≤ -2)
    (ht : t ≤ -2) : 4 * n ≤ Rounded.nearest (Rounded.nearest (n * s) * t) := by
  have htwo : Rounded.OnGrid (2 * n) := by simpa using hgrid.zpow_mul 1
  have hfour : Rounded.OnGrid (4 * n) := by
    have hpow : (2 : Rat) ^ (2 : Int) = 4 := by norm_num
    simpa only [hpow] using hgrid.zpow_mul 2
  have hupper : Rounded.nearest (n * s) ≤ -(2 * n) := htwo.neg.nearest_le (by nlinarith)
  exact hfour.le_nearest (by nlinarith)

end Both

/-! ### The usage against the growth -/

/-- The usage is within the growth, unless both overhangs are longer than the period
    and one of them is more than twice as long. -/
theorem usage_le_grown (h : o.IsRegular c) (valid : o.period.Valid) (hin : ¬o.Outside)
    (hshort : o.early ≤ o.span ∨ o.late ≤ o.span ∨
      o.early ≤ 2 * o.span ∧ o.late ≤ 2 * o.span) :
    (o.usage c).toInt ≤ o.grown c := by
  by_cases hearly : 0 < o.early
  · by_cases hlate : 0 < o.late
    · have hspan : (0 : Rat) < o.span := by exact_mod_cast span_pos valid
      have hgrown : (0 : Rat) ≤ o.grown c := by exact_mod_cast grown_nonneg h
      rw [usage_of_both h valid hearly hlate]
      refine Rounded.truncate_le (grown_nonneg h) (nearest_mul_mul_le hgrown (onGrid_grown h)
        (share_le_one hspan (by exact_mod_cast hearly.le))
        (share_le_one hspan (by exact_mod_cast hlate.le)) ?_)
      rcases hshort with hle | hle | ⟨hle, hle'⟩
      · exact .inl (share_nonneg hspan (by exact_mod_cast hle))
      · exact .inr (.inl (share_nonneg hspan (by exact_mod_cast hle)))
      · exact .inr (.inr ⟨neg_one_le_share hspan (by exact_mod_cast hle),
          neg_one_le_share hspan (by exact_mod_cast hle')⟩)
    · exact usage_le_grown_of_early h valid hin hearly hlate
  · by_cases hlate : 0 < o.late
    · exact usage_le_grown_of_late h valid hin hearly hlate
    · -- The samples lie within the period, and nothing is scaled.
      simp only [usage]
      rw [if_neg (mt early_pos_iff.2 hearly), if_neg (mt late_pos_iff.2 hlate), growth_eq h]
      exact Rounded.truncate_le (grown_nonneg h) le_rfl

/-- Overhangs of three periods or more on both sides make the usage four times the
    growth, or more. -/
theorem four_mul_grown_le_usage (h : o.IsRegular c) (valid : o.period.Valid)
    (hearly : 3 * o.span ≤ o.early) (hlate : 3 * o.span ≤ o.late) :
    4 * o.grown c ≤ (o.usage c).toInt := by
  have hpos := span_pos valid
  have hspan : (0 : Rat) < o.span := by exact_mod_cast hpos
  have hgrown := grown_nonneg h
  have hgrown' := grown_le h
  rw [usage_of_both h valid (by omega) (by omega)]
  refine Rounded.le_truncate (by omega) (by omega) ?_
  push_cast
  exact four_mul_le_nearest_mul_mul (by exact_mod_cast hgrown) (onGrid_grown h)
    (share_le_neg_two hspan (by exact_mod_cast hearly))
    (share_le_neg_two hspan (by exact_mod_cast hlate))

/-! ### What is charged -/

theorem counted_le_grown (h : o.IsRegular c) (valid : o.period.Valid)
    (hshort : o.early ≤ o.span ∨ o.late ≤ o.span ∨
      o.early ≤ 2 * o.span ∧ o.late ≤ 2 * o.span) :
    (o.counted c).toInt ≤ o.grown c := by
  rw [counted, chargedUsage]
  split_ifs with hout hneg
  · exact grown_nonneg h
  · exact grown_nonneg h
  · exact usage_le_grown h valid hout hshort

theorem four_mul_grown_le_counted (h : o.IsRegular c) (valid : o.period.Valid)
    (hearly : 3 * o.span ≤ o.early) (hlate : 3 * o.span ≤ o.late) :
    4 * o.grown c ≤ (o.counted c).toInt := by
  have husage := four_mul_grown_le_usage h valid hearly hlate
  have hgrown := grown_nonneg h
  have hspan := span_pos valid
  rw [counted, chargedUsage]
  split_ifs with hout hneg
  · -- The period lies between the samples, so they are not outside of it.
    rw [outside_iff] at hout
    simp only [early, late, span] at hearly hlate hspan
    omega
  · rw [Int64.lt_iff_toInt_lt, Int64.toInt_zero] at hneg
    rw [Int64.toInt_zero]
    omega
  · exact husage

/-- An entity whose samples lie in the exact range, and whose counter did not go
    backwards, is charged at least nothing and at most what it used, however far its
    samples lie from the period, unless both overhangs are longer than the period and
    one of them is more than twice as long. With overhangs of three periods or more
    on both sides, it is charged at least four times what it used. -/
theorem charged_within_growth (regular : o.IsRegular c) (valid : o.period.Valid) :
    ∃ totals, (Report.charge ∅ o)[o.entity.dimensions]? = some totals ∧
      0 ≤ (totals.amount c).toInt ∧
      ((o.early ≤ o.span ∨ o.late ≤ o.span ∨ o.early ≤ 2 * o.span ∧ o.late ≤ 2 * o.span) →
        (totals.amount c).toInt ≤ o.grown c) ∧
      (3 * o.span ≤ o.early → 3 * o.span ≤ o.late →
        4 * o.grown c ≤ (totals.amount c).toInt) := by
  obtain ⟨totals, htotals, hamount⟩ := Report.exists_getElem?_charge_empty o c
  refine ⟨totals, htotals, ?_, fun hshort => ?_, fun hearly hlate => ?_⟩
  · rw [hamount]
    exact Int64.le_iff_toInt_le.1 (o.counted_nonneg c)
  · rw [hamount]
    exact counted_le_grown regular valid hshort
  · rw [hamount]
    exact four_mul_grown_le_counted regular valid hearly hlate

/-- Samples two periods before the period and two periods after it: both shares are
    minus one period's worth, and the charge is within the growth all the same. -/
theorem charged_within_growth_of_two_periods :
    let o : Observation :=
      ⟨⟨"a", "vm", "small", "owner", "account", "cluster", "zone"⟩, ⟨"a", 0, 0, 5⟩,
        ⟨"a", 50, 7, 8⟩, ⟨20, 30⟩⟩
    o.IsRegular .diskIo ∧ o.period.Valid ∧
      ∃ totals, (Report.charge ∅ o)[o.entity.dimensions]? = some totals ∧
        0 ≤ (totals.amount .diskIo).toInt ∧ (totals.amount .diskIo).toInt ≤ 7 := by
  intro o
  have regular : o.IsRegular .diskIo :=
    ⟨by decide, by decide, by decide, by decide, by decide⟩
  have valid : o.period.Valid := by decide
  obtain ⟨totals, htotals, hnonneg, hle, -⟩ := charged_within_growth regular valid
  exact ⟨regular, valid, totals, htotals, hnonneg,
    hle (.inr (.inr ⟨by decide, by decide⟩))⟩

/-- A counter that grows by one between samples ten periods before the period and ten
    periods after it: two shares of minus nine periods' worth make a charge of 81. -/
theorem charged_beyond_growth :
    let o : Observation :=
      ⟨⟨"a", "vm", "small", "owner", "account", "cluster", "zone"⟩, ⟨"a", 0, 0, 0⟩,
        ⟨"a", 21, 1, 1⟩, ⟨10, 11⟩⟩
    o.IsRegular .diskIo ∧ o.period.Valid ∧ o.first.timestampMs ≤ o.last.timestampMs ∧
      ∃ totals, (Report.charge ∅ o)[o.entity.dimensions]? = some totals ∧
        totals.amount .diskIo = 81 ∧ ¬(totals.amount .diskIo).toInt ≤ o.grown .diskIo := by
  intro o
  have regular : o.IsRegular .diskIo :=
    ⟨by decide, by decide, by decide, by decide, by decide⟩
  obtain ⟨totals, htotals, hamount⟩ := Report.exists_getElem?_charge_empty o .diskIo
  have hcounted : o.counted .diskIo = 81 := by decide +kernel
  refine ⟨regular, by decide, by decide, totals, htotals, hamount.trans hcounted, ?_⟩
  rw [hamount, hcounted]
  decide

end Observation

end Metering
