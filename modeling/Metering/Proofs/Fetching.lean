import Metering.Proofs.Tables

/-!
# The window of a fetch

The end of a window is the end of the period and a margin, and the margin a product of
a difference: three operations, each of which may stop at an end of the 64-bit range.
For an anchor behind the epoch it does not show. What stops at the lower end is replaced
by the least margin, and what stops at the upper end brings the sum there too. So a
window is the exact one, stopped once, and a policy with greater margins never reads less.

* `FetchPolicy.toInt_beforeMs`: the end of a window in exact arithmetic;
* `Tables.run_rowsIn_of_wider`: a wider window keeps every row in its place;
* `FetchPolicy.window_exact`: windows, and how they grow with the margins.
-/

namespace Metering

/-! ### Margins -/

/-- Without an anchor the epoch stands for it. -/
theorem getD_nonneg {anchor : Option Int64} (behind : ∀ a ∈ anchor, 0 ≤ a) : 0 ≤ anchor.getD 0 := by
  cases anchor with
  | none => exact Std.le_refl _
  | some a => exact behind a rfl

namespace FetchPolicy

variable {policy policy' : FetchPolicy} {p : Period} {a : Int64}

/-- The margin is the exact one, stopped at the upper end of the range. -/
theorem toInt_marginMs (multiplier : 0 ≤ policy.marginMultiplier) (least : 0 ≤ policy.minMarginMs)
    (behind : 0 ≤ a) :
    (policy.marginMs p a).toInt = min Int64.maxValue.toInt
      (max ((p.beginningMs.toInt - a.toInt) * policy.marginMultiplier.toInt)
        policy.minMarginMs.toInt) := by
  rw [Int64.le_iff_toInt_le, Int64.toInt_zero] at multiplier least behind
  have hbeginning := p.beginningMs.toInt_lt
  have hleast := policy.minMarginMs.toInt_lt
  rw [marginMs, Saturation.toInt_max, Saturation.toInt_mul, Saturation.toInt_sub,
    Saturation.toInt_maxValue]
  rcases Int.le_total 0 (p.beginningMs.toInt - a.toInt) with hgap | hgap
  · -- The difference fits, and the product can stop at the upper end only.
    have hexact : Saturation.clamp (p.beginningMs.toInt - a.toInt) = _ :=
      Saturation.clamp_eq_self (by omega) (by omega)
    have hproduct := Int.mul_nonneg hgap multiplier
    rw [hexact]
    generalize (p.beginningMs.toInt - a.toInt) * policy.marginMultiplier.toInt = n at hproduct ⊢
    rw [Saturation.clamp]
    omega
  · -- The product is not positive, wherever the difference has stopped.
    have hstopped : Saturation.clamp (p.beginningMs.toInt - a.toInt) ≤ 0 := by
      rw [Saturation.clamp]
      omega
    have hproduct := Int.mul_nonpos_of_nonpos_of_nonneg hgap multiplier
    have hproduct' := Int.mul_nonpos_of_nonpos_of_nonneg hstopped multiplier
    rw [Int.max_eq_right (Int.le_trans hproduct least), Saturation.clamp]
    generalize Saturation.clamp _ * _ = n at hproduct' ⊢
    omega

/-- The end of a window is the exact one, stopped at the upper end of the range. -/
theorem toInt_beforeMs {anchor : Option Int64} (valid : p.Valid)
    (multiplier : 0 ≤ policy.marginMultiplier) (least : 0 ≤ policy.minMarginMs)
    (behind : ∀ a ∈ anchor, 0 ≤ a) :
    (policy.window p anchor).beforeMs.toInt = min Int64.maxValue.toInt (p.endingMs.toInt +
      max ((p.beginningMs.toInt - (anchor.getD 0).toInt) * policy.marginMultiplier.toInt)
        policy.minMarginMs.toInt) := by
  have hbehind := getD_nonneg behind
  rw [window, Saturation.toInt_add, toInt_marginMs multiplier least hbehind]
  rw [Period.Valid, Int64.lt_iff_toInt_lt] at valid
  rw [Int64.le_iff_toInt_le, Int64.toInt_zero] at multiplier least hbehind
  have hlow := p.endingMs.le_toInt
  have hleast := policy.minMarginMs.toInt_lt
  rw [Saturation.toInt_maxValue, Saturation.clamp]
  rcases Int.le_total 0 (p.beginningMs.toInt - (anchor.getD 0).toInt) with hgap | hgap
  · -- The period ends behind the epoch, so a margin that has stopped takes the sum along.
    have hproduct := Int.mul_nonneg hgap multiplier
    omega
  · have hproduct := Int.mul_nonpos_of_nonpos_of_nonneg hgap multiplier
    omega

/-- A window starts at its anchor, or one instant before it. -/
theorem toInt_afterMs {anchor : Option Int64} (behind : ∀ a ∈ anchor, 0 ≤ a) :
    (policy.window p anchor).afterMs.toInt =
      (anchor.getD 0).toInt - if policy.includeAnchor then 1 else 0 := by
  have hbehind := getD_nonneg behind
  rw [Int64.le_iff_toInt_le, Int64.toInt_zero] at hbehind
  have hhigh := (anchor.getD 0).toInt_lt
  have hone : (1 : Int64).toInt = 1 := by decide
  simp only [window]
  split
  · rw [Saturation.toInt_sub, hone, Saturation.clamp_eq_self (by omega) (by omega)]
  · rw [Int.sub_zero]

/-- Greater margins do not make a window end earlier. -/
theorem beforeMs_le_beforeMs {anchor : Option Int64} (valid : p.Valid)
    (multiplier : 0 ≤ policy.marginMultiplier) (least : 0 ≤ policy.minMarginMs)
    (behind : ∀ a ∈ anchor, 0 ≤ a) (hmultiplier : policy.marginMultiplier ≤ policy'.marginMultiplier)
    (hleast : policy.minMarginMs ≤ policy'.minMarginMs) :
    (policy.window p anchor).beforeMs ≤ (policy'.window p anchor).beforeMs := by
  have multiplier' := Std.le_trans multiplier hmultiplier
  rw [Int64.le_iff_toInt_le, toInt_beforeMs valid multiplier least behind,
    toInt_beforeMs valid multiplier' (Std.le_trans least hleast) behind]
  rw [Int64.le_iff_toInt_le] at multiplier least hmultiplier hleast
  rw [Int64.toInt_zero] at multiplier least
  rcases Int.le_total 0 (p.beginningMs.toInt - (anchor.getD 0).toInt) with hgap | hgap
  · have hproduct := Int.mul_le_mul_of_nonneg_left hmultiplier hgap
    omega
  · -- Both products are below the least margins.
    have hproduct := Int.mul_nonpos_of_nonpos_of_nonneg hgap multiplier
    omega

end FetchPolicy

/-! ### Rows -/

namespace Tables

variable {es : List Entity} {ss : List Snapshot} {w w' : Window}

/-- A wider window has the rows of the narrower one among its rows, in their order. -/
theorem joined_sublist (h : ∀ t, w.Contains t → w'.Contains t) (es : List Entity)
    (ss : List Snapshot) : (joined es ss w).Sublist (joined es ss w') := by
  have hrows : joined es ss w =
      (joined es ss w').filter (w.Contains ·.snapshot.timestampMs) := by
    rw [joined_eq_filter, joined_eq_filter, List.filter_filter]
    refine List.filter_congr fun row _ => ?_
    rw [Bool.eq_iff_iff, Bool.and_eq_true, decide_eq_true_eq, decide_eq_true_eq]
    exact ⟨fun hin => ⟨hin, h _ hin⟩, fun hin => hin.1⟩
  rw [hrows]
  exact List.filter_sublist

/-- A fetch that succeeds also succeeds for a wider window, and drops no row then. -/
theorem run_rowsIn_of_wider (h : ∀ t, w.Contains t → w'.Contains t) {db db' : Tables}
    {rows : List Row} (fetched : (SnapshotStore.rowsIn w).run db = (.ok rows, db')) :
    ∃ rows', (SnapshotStore.rowsIn w').run db = (.ok rows', db') ∧ rows.Sublist rows' := by
  obtain ⟨_ | es, _ | ss⟩ := db
  · cases fetched
  · cases fetched
  · cases fetched
  · rw [run_rowsIn] at fetched
    cases fetched
    exact ⟨_, run_rowsIn w', joined_sublist h es ss⟩

end Tables

/-- The window of a report on a valid period, for an anchor that is not before the epoch,
    or for none: it starts at the anchor, or at the instant before if the anchor is to be
    read; it ends where the sum of the period's end and the greater margin in exact
    arithmetic stops at the upper end of the range. With a greater multiplier, or a greater
    least margin, it starts alike and does not end earlier, and a fetch drops no row. -/
theorem FetchPolicy.window_exact {policy : FetchPolicy} {p : Period} {anchor : Option Int64}
    (valid : p.Valid) (multiplier : 0 ≤ policy.marginMultiplier) (least : 0 ≤ policy.minMarginMs)
    (behind : ∀ a ∈ anchor, 0 ≤ a) :
    (policy.window p anchor).beforeMs.toInt = min Int64.maxValue.toInt (p.endingMs.toInt +
      max ((p.beginningMs.toInt - (anchor.getD 0).toInt) * policy.marginMultiplier.toInt)
        policy.minMarginMs.toInt) ∧
    (policy.window p anchor).afterMs.toInt =
      (anchor.getD 0).toInt - (if policy.includeAnchor then 1 else 0) ∧
    ∀ policy' : FetchPolicy, policy'.includeAnchor = policy.includeAnchor →
      policy.marginMultiplier ≤ policy'.marginMultiplier →
      policy.minMarginMs ≤ policy'.minMarginMs →
      (policy'.window p anchor).afterMs = (policy.window p anchor).afterMs ∧
      (policy.window p anchor).beforeMs ≤ (policy'.window p anchor).beforeMs ∧
      ∀ (db db' : Tables) (rows : List Row),
        (SnapshotStore.rowsIn (policy.window p anchor)).run db = (.ok rows, db') →
        ∃ rows', (SnapshotStore.rowsIn (policy'.window p anchor)).run db = (.ok rows', db') ∧
          rows.Sublist rows' := by
  refine ⟨toInt_beforeMs valid multiplier least behind, toInt_afterMs behind,
    fun policy' hinclude hmultiplier hleast => ?_⟩
  have hafter : (policy'.window p anchor).afterMs = (policy.window p anchor).afterMs := by
    simp only [window, hinclude]
  have hbefore := beforeMs_le_beforeMs valid multiplier least behind hmultiplier hleast
  refine ⟨hafter, hbefore, fun db db' rows fetched => ?_⟩
  refine Tables.run_rowsIn_of_wider (fun t ht => ⟨?_, Std.lt_of_lt_of_le ht.2 hbefore⟩) fetched
  rw [hafter]
  exact ht.1

/-- An anchor a hundred milliseconds before the period, which is read too. Twice the
    distance is not enough to reach the last snapshot; a multiplier with which the margin
    stops at the end of the range is. -/
theorem FetchPolicy.window_exact_stopped :
    let e : Entity := ⟨"a", "vm", "small", "owner", "account", "cluster", "zone"⟩
    let db : Tables := ⟨some [e], some [⟨"a", 2200, 3, 3⟩, ⟨"a", 900, 1, 1⟩, ⟨"a", 1500, 2, 2⟩]⟩
    let narrow : FetchPolicy := { includeAnchor := true }
    let wide : FetchPolicy := { narrow with marginMultiplier := 0x4000000000000000 }
    let p : Period := ⟨1000, 2000⟩
    p.Valid ∧ 0 ≤ narrow.marginMultiplier ∧ 0 ≤ narrow.minMarginMs ∧
      0 ≤ wide.marginMultiplier ∧ (∀ a ∈ some (900 : Int64), 0 ≤ a) ∧
      narrow.window p (some 900) = ⟨899, 2200⟩ ∧
      (wide.window p (some 900)).beforeMs = Int64.maxValue ∧
      ∃ rows rows', (SnapshotStore.rowsIn (narrow.window p (some 900))).run db = (.ok rows, db) ∧
        (SnapshotStore.rowsIn (wide.window p (some 900))).run db = (.ok rows', db) ∧
        rows.length = 2 ∧ rows'.length = 3 ∧ rows.Sublist rows' := by
  intro e db narrow wide p
  have valid : p.Valid := by decide
  have behind : ∀ a ∈ some (900 : Int64), 0 ≤ a := by
    rintro a ⟨⟩
    decide
  have multiplier : 0 ≤ narrow.marginMultiplier := by decide
  have least : 0 ≤ narrow.minMarginMs := by decide
  have multiplier' : 0 ≤ wide.marginMultiplier := by decide
  have least' : 0 ≤ wide.minMarginMs := by decide
  obtain ⟨hbefore, hafter, hwider⟩ := window_exact valid multiplier least behind
  obtain ⟨hbefore', -, -⟩ := window_exact valid multiplier' least' behind
  obtain ⟨-, -, hrows⟩ := hwider wide rfl (by decide) (by decide)
  have hnarrow : narrow.window p (some 900) = ⟨899, 2200⟩ := by
    rw [Window.mk.injEq, ← Int64.toInt_inj, ← Int64.toInt_inj, hbefore, hafter]
    decide
  have hwide : (wide.window p (some 900)).beforeMs = Int64.maxValue := by
    rw [← Int64.toInt_inj, hbefore']
    decide
  obtain ⟨rows', hfetched, hsub⟩ := hrows db db _ (Tables.run_rowsIn _)
  obtain rfl := Except.ok.inj (congrArg Prod.fst hfetched)
  exact ⟨valid, multiplier, least, multiplier', behind, hnarrow, hwide, _, _,
    Tables.run_rowsIn _, hfetched, (Row.sort_perm _).length_eq.trans (by decide),
    (Row.sort_perm _).length_eq.trans (by decide), hsub⟩

end Metering
