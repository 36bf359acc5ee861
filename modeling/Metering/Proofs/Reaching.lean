import Mathlib.Algebra.Order.Ring.Int
import Mathlib.Tactic.Linarith
import Metering.Proofs.Searching

/-!
# How far a search reaches

A search squares its reach in 64 bits, with every product and difference checked.
The checks end it where exact arithmetic would: a reach that does not fit is longer
than the time from the epoch to any instant, so the window would not have started
behind the epoch anyway.

* `startMs`: where the windows of a search start, over the integers;
* `next_eq_none`: when a call of `next` gives nothing, in exact terms;
* `getElem?_windows`: the calls of `next` give the windows one by one, and then nothing;
* `Reached`: how far a search has come; a call of `next` brings it one window further;
* `windows_exact`: the windows of a search, and what the checks of its arithmetic refuse.
-/

namespace Metering

/-- A window lies within another one that holds more instants. -/
def Window.Inside (v w : Window) : Prop :=
  (∀ t, v.Contains t → w.Contains t) ∧ ∃ t, w.Contains t ∧ ¬v.Contains t

/-! ### Reaches -/

namespace Reach

variable {r : Reach} {t : Int64}

/-- A start that does not fit lies before the epoch. -/
theorem lt_of_before?_eq_none (h : r.before? t = none) :
    t.toInt - hourMs.toInt * r.hours.toInt < 0 := by
  have hlong := r.one_lt_hours
  have ht := t.toInt_lt
  rw [before?, toInt_hourMs] at h
  rw [toInt_hourMs]
  cases hms : Saturation.fits? (3600000 * r.hours.toInt) with
  | none =>
    have hbeyond := Saturation.fits?_eq_none_iff.1 hms
    omega
  | some ms =>
    -- The time is positive, so the difference can leave the range at the lower end only.
    rw [hms, Option.bind_some] at h
    have hexact := Saturation.fits?_eq_some_iff.1 hms
    have hbeyond := Saturation.fits?_eq_none_iff.1 h
    omega

theorem toInt_of_next? {r' : Reach} (h : r.next? = some r') :
    r'.hours.toInt = r.hours.toInt * r.hours.toInt := by
  unfold next? at h
  split at h
  · cases h
  · next hours hsquare =>
    cases h
    exact Saturation.fits?_eq_some_iff.1 hsquare

/-- A reach whose square does not fit is followed by none that could be used: so many
    hours go back behind the epoch from any instant. -/
theorem lt_of_next?_eq_none (h : r.next? = none) (t : Int64) :
    t.toInt - hourMs.toInt * (r.hours.toInt * r.hours.toInt) < 0 := by
  unfold next? at h
  split at h
  · next hsquare =>
    have hlong := r.one_lt_hours
    have hpos : 0 ≤ r.hours.toInt * r.hours.toInt := Int.mul_nonneg (by omega) (by omega)
    have ht := t.toInt_lt
    have hbeyond := Saturation.fits?_eq_none_iff.1 hsquare
    rw [toInt_hourMs]
    omega
  · cases h

end Reach

namespace Search

/-! ### Exact starts -/

/-- Where the window `k` of a search before `t` starts: as many milliseconds before `t`
    as there are in two hours squared `k` times. -/
def startMs (t : Int64) (k : Nat) : Int := t.toInt - hourMs.toInt * 2 ^ 2 ^ k

variable {t : Int64} {k : Nat}

theorem two_pow_two_pow_succ (k : Nat) : (2 : Int) ^ 2 ^ (k + 1) = 2 ^ 2 ^ k * 2 ^ 2 ^ k := by
  rw [pow_succ 2 k, pow_mul, pow_two]

theorem startMs_succ_le (t : Int64) (k : Nat) : startMs t (k + 1) ≤ startMs t k := by
  have hpos : (1 : Int) ≤ 2 ^ 2 ^ k := one_le_pow₀ (by decide)
  have hlonger : (2 : Int) ^ 2 ^ k ≤ 2 ^ 2 ^ (k + 1) := by
    rw [two_pow_two_pow_succ]
    exact le_mul_of_one_le_right (by omega) hpos
  rw [startMs, startMs, toInt_hourMs]
  omega

/-- Every window starts before the instant that it ends at. -/
theorem startMs_lt (t : Int64) (k : Nat) : startMs t k < t.toInt := by
  have hpos : (1 : Int) ≤ 2 ^ 2 ^ k := one_le_pow₀ (by decide)
  rw [startMs, toInt_hourMs]
  omega

/-- No window is that wide: it would hold more hours than 64 bits can count. -/
theorem startMs_six_lt (t : Int64) : startMs t 6 < 0 := by
  have hpow : (2 : Int) ^ 2 ^ 6 = 0x10000000000000000 := by norm_num
  have ht := t.toInt_lt
  rw [startMs, toInt_hourMs, hpow]
  omega

/-! ### Calls of a search -/

/-- A call of `next` that gives nothing ends the search: there is no reach any more, or
    its window would not start behind the epoch. -/
theorem next_eq_none {s s' : Search} (h : s.next = (none, s')) :
    s' = s.ended ∧ ∀ r ∈ s.reach?, s.beforeMs.toInt - hourMs.toInt * r.hours.toInt ≤ 0 := by
  rw [next] at h
  split at h
  · next hreach =>
    cases h
    exact ⟨by rw [ended, ← hreach], fun r hr => by rw [hreach] at hr; cases hr⟩
  · next r hreach =>
    rw [hreach]
    split at h
    · next hbefore =>
      cases h
      refine ⟨rfl, ?_⟩
      rintro _ ⟨⟩
      exact (Reach.lt_of_before?_eq_none hbefore).le
    · next a hbefore =>
      split at h
      · next hpos =>
        cases h
        refine ⟨rfl, ?_⟩
        rintro _ ⟨⟩
        rwa [Int64.le_iff_toInt_le, Int64.toInt_zero, Reach.toInt_of_before? hbefore] at hpos
      · cases h

/-- A search that has ended stays as it is. -/
theorem next_ended (s : Search) : s.ended.next = (none, s.ended) := rfl

/-- The search after `k` calls of `next`. -/
def after : Search → Nat → Search
  | s, 0 => s
  | s, k + 1 => after s.next.2 k

theorem next_after_ended (s : Search) (k : Nat) : (s.ended.after k).next.1 = none := by
  induction k with
  | zero => rfl
  | succ k ih => rwa [after, next_ended]

/-- The calls of `next` give the windows one by one, and then nothing any more. -/
theorem getElem?_windows (s : Search) (k : Nat) : s.windows[k]? = (s.after k).next.1 := by
  induction k generalizing s with
  | zero =>
    rw [after]
    rcases hnext : s.next with ⟨_ | w, s'⟩
    · rw [windows_of_next_eq_none hnext, List.getElem?_nil]
    · rw [windows_of_next_eq_some hnext, List.getElem?_cons_zero]
  | succ k ih =>
    rw [after]
    rcases hnext : s.next with ⟨_ | w, s'⟩
    · obtain ⟨rfl, -⟩ := next_eq_none hnext
      rw [windows_of_next_eq_none hnext, next_after_ended, List.getElem?_nil]
    · rw [windows_of_next_eq_some hnext, List.getElem?_cons_succ, ih]

/-! ### How far a search has come -/

/-- The search before `t` has come to its window `k`: the reach is that of this window, or
    the search has ended, and the window would not start behind the epoch. -/
structure Reached (t : Int64) (k : Nat) (s : Search) : Prop where
  beforeMs : s.beforeMs = t
  hours : ∀ r ∈ s.reach?, r.hours.toInt = 2 ^ 2 ^ k
  ended : s.reach? = none → startMs t k ≤ 0

theorem reached_before (t : Int64) : Reached t 0 (before t) where
  beforeMs := rfl
  hours := by
    rintro r ⟨⟩
    rfl
  ended := nofun

/-- A call of `next` gives the window that the search has come to if it starts behind the
    epoch, and nothing otherwise. It leaves the search at the window after that. -/
theorem Reached.next {s : Search} (h : Reached t k s) :
    (0 < startMs t k → ∃ a, s.next.1 = some ⟨a, t⟩ ∧ a.toInt = startMs t k) ∧
      (startMs t k ≤ 0 → s.next.1 = none) ∧ Reached t (k + 1) s.next.2 := by
  obtain rfl := h.beforeMs
  have hstart : ∀ r ∈ s.reach?,
      startMs s.beforeMs k = s.beforeMs.toInt - hourMs.toInt * r.hours.toInt := fun r hr => by
    rw [startMs, h.hours r hr]
  rcases hnext : s.next with ⟨_ | w, s'⟩
  · obtain ⟨rfl, hbehind⟩ := next_eq_none hnext
    have hended : startMs s.beforeMs k ≤ 0 := by
      cases hreach : s.reach? with
      | none => exact h.ended hreach
      | some r => exact (hstart r hreach).trans_le (hbehind r hreach)
    exact ⟨fun hpos => absurd hended (not_le.2 hpos), fun _ => rfl, rfl, nofun,
      fun _ => (startMs_succ_le _ k).trans hended⟩
  · obtain ⟨r, hr, hend, hafter, hpos, rfl⟩ := next_eq_some hnext
    rw [Int64.lt_iff_toInt_lt, Int64.toInt_zero] at hpos
    have hexact := hafter.trans (hstart r hr).symm
    refine ⟨fun _ => ⟨w.afterMs, by rw [← hend], hexact⟩,
      fun hle => absurd (hexact ▸ hpos) (not_lt.2 hle), rfl, fun r' hr' => ?_, fun hnone => ?_⟩
    · rw [Reach.toInt_of_next? hr', h.hours r hr, two_pow_two_pow_succ]
    · rw [startMs, two_pow_two_pow_succ, ← h.hours r hr]
      exact (Reach.lt_of_next?_eq_none hnone _).le

/-- After `k` calls, a search has come `k` windows further. -/
theorem Reached.after {s : Search} {j : Nat} (h : Reached t j s) (k : Nat) :
    Reached t (j + k) (s.after k) := by
  induction k generalizing s j with
  | zero => exact h
  | succ k ih =>
    rw [Search.after, ← Nat.add_assoc, Nat.add_right_comm]
    exact ih h.next.2.2

theorem reached_after (t : Int64) (k : Nat) : Reached t k ((before t).after k) := by
  simpa using (reached_before t).after k

/-- The windows of a search are those that start behind the epoch. -/
theorem getElem?_windows_before_iff {w : Window} :
    (before t).windows[k]? = some w ↔
      0 < startMs t k ∧ w.afterMs.toInt = startMs t k ∧ w.beforeMs = t := by
  obtain ⟨hgiven, hended, -⟩ := (reached_after t k).next
  rw [getElem?_windows]
  rcases lt_or_ge 0 (startMs t k) with hpos | hle
  · obtain ⟨a, hnext, hafter⟩ := hgiven hpos
    rw [hnext, Option.some.injEq]
    constructor
    · rintro rfl
      exact ⟨hpos, hafter, rfl⟩
    · rintro ⟨-, hw, rfl⟩
      rw [Int64.toInt_inj.1 (hafter.trans hw.symm)]
  · rw [hended hle]
    exact iff_of_false nofun fun h => absurd h.1 (not_lt.2 hle)

theorem getElem?_windows_before_eq_none_iff :
    (before t).windows[k]? = none ↔ startMs t k ≤ 0 := by
  obtain ⟨hgiven, hended, -⟩ := (reached_after t k).next
  rw [getElem?_windows]
  refine ⟨fun hnone => not_lt.1 fun hpos => ?_, hended⟩
  obtain ⟨a, hnext, -⟩ := hgiven hpos
  rw [hnone] at hnext
  cases hnext

theorem afterMs_pos_of_mem_windows {w : Window} (h : w ∈ (before t).windows) :
    0 < w.afterMs := by
  obtain ⟨k, hk⟩ := List.mem_iff_getElem?.1 h
  obtain ⟨hpos, hstart, -⟩ := getElem?_windows_before_iff.1 hk
  rwa [Int64.lt_iff_toInt_lt, Int64.toInt_zero, hstart]

/-- Six windows at most: the seventh would be wider than 64 bits can count. -/
theorem length_windows_before_le (t : Int64) : (before t).windows.length ≤ 6 :=
  List.getElem?_eq_none_iff.1 (getElem?_windows_before_eq_none_iff.2 (startMs_six_lt t).le)

/-- Every window lies within those after it. -/
theorem pairwise_inside_windows (t : Int64) : (before t).windows.Pairwise Window.Inside := by
  refine (pairwise_windows (before t)).imp_of_mem fun {v w} hv hw hwider => ?_
  obtain ⟨k, hk⟩ := List.mem_iff_getElem?.1 hv
  obtain ⟨-, hstart, hend⟩ := getElem?_windows_before_iff.1 hk
  have hend' : w.beforeMs = t := (mem_windows hw).1
  refine ⟨fun u hu => ⟨Std.lt_trans hwider hu.1, ?_⟩, v.afterMs, ⟨hwider, ?_⟩, ?_⟩
  · rw [hend', ← hend]
    exact hu.2
  · rw [hend', Int64.lt_iff_toInt_lt, hstart]
    exact startMs_lt t k
  · exact fun hself => Std.lt_irrefl hself.1

/-- The reach of a search that goes on is short enough to be turned into milliseconds. -/
theorem fits?_of_reached {s : Search} {r : Reach} (h : Reached t k s) (hr : s.reach? = some r) :
    ∃ ms, Saturation.fits? (hourMs.toInt * r.hours.toInt) = some ms := by
  have hhours := h.hours r hr
  have hlong := r.hours.toInt_lt
  -- The next power, that of the seventh window, does not fit.
  have hk : k ≤ 5 := by
    by_contra hk
    have hmono : (2 : Int) ^ 2 ^ 6 ≤ 2 ^ 2 ^ k :=
      pow_le_pow_right₀ (by decide) (Nat.pow_le_pow_right (by decide) (by omega))
    have hpow : (2 : Int) ^ 2 ^ 6 = 0x10000000000000000 := by norm_num
    omega
  have hmono : (2 : Int) ^ 2 ^ k ≤ 2 ^ 2 ^ 5 :=
    pow_le_pow_right₀ (by decide) (Nat.pow_le_pow_right (by decide) hk)
  have hpow : (2 : Int) ^ 2 ^ 5 = 0x100000000 := by norm_num
  have hpos : (0 : Int) ≤ 2 ^ 2 ^ k := pow_nonneg (by decide) _
  rw [← Option.ne_none_iff_exists', ne_eq, Saturation.fits?_eq_none_iff, toInt_hourMs, hhours]
  omega

/-- The windows of a search before `t` start two hours squared `k` times before `t`, for
    `k` from zero on up to the first of these instants, in exact arithmetic, that is not
    behind the epoch. They are at most six, each of them lies within the next one, and
    the calls of `next` give them one by one, and nothing from the first time on that
    they give nothing. A reach always fits in milliseconds; where a start, or the square
    of a reach, does not fit, the window that it is for would start before the epoch. -/
theorem windows_exact (t : Int64) :
    (∃ n ≤ 6, (∀ k < n, 0 < startMs t k) ∧ startMs t n ≤ 0 ∧
      (before t).windows.map (fun w => (w.afterMs.toInt, w.beforeMs)) =
        (List.range n).map fun k => (startMs t k, t)) ∧
    (∀ w ∈ (before t).windows, 0 < w.afterMs) ∧
    (before t).windows.Pairwise Window.Inside ∧
    (∀ k, ((before t).after k).next.1 = (before t).windows[k]?) ∧
    (∀ j k, j ≤ k → ((before t).after j).next.1 = none → ((before t).after k).next.1 = none) ∧
    ∀ k, ∀ r ∈ ((before t).after k).reach?, r.hours.toInt = 2 ^ 2 ^ k ∧
      (∃ ms, Saturation.fits? (hourMs.toInt * r.hours.toInt) = some ms) ∧
      (r.before? t = none → startMs t k < 0) ∧ (r.next? = none → startMs t (k + 1) < 0) := by
  refine ⟨⟨_, length_windows_before_le t, fun k hk => ?_, ?_, ?_⟩,
    fun w => afterMs_pos_of_mem_windows, pairwise_inside_windows t,
    fun k => (getElem?_windows _ k).symm, fun j k hjk => ?_, fun k r hr => ?_⟩
  · exact (getElem?_windows_before_iff.1 (List.getElem?_eq_getElem hk)).1
  · exact getElem?_windows_before_eq_none_iff.1 (List.getElem?_eq_none_iff.2 le_rfl)
  · refine List.ext_getElem (by simp) fun k hk _ => ?_
    rw [List.length_map] at hk
    obtain ⟨-, hstart, hend⟩ := getElem?_windows_before_iff.1 (List.getElem?_eq_getElem hk)
    rw [List.getElem_map, List.getElem_map, List.getElem_range, hstart, hend]
  · rw [← getElem?_windows, ← getElem?_windows, List.getElem?_eq_none_iff,
      List.getElem?_eq_none_iff]
    exact fun hlength => hlength.trans hjk
  · have hreached := reached_after t k
    have hhours := hreached.hours r hr
    refine ⟨hhours, fits?_of_reached hreached hr, fun hnone => ?_, fun hnone => ?_⟩
    · rw [startMs, ← hhours]
      exact Reach.lt_of_before?_eq_none hnone
    · rw [startMs, two_pow_two_pow_succ, ← hhours]
      exact Reach.lt_of_next?_eq_none hnone t

example : (before Int64.maxValue).windows.length = 6 := by decide +kernel

end Search

end Metering
