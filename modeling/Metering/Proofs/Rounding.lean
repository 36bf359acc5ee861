import Mathlib.Algebra.Order.Field.Power
import Mathlib.Data.Rat.Floor
import Mathlib.Tactic.Linarith
import Mathlib.Tactic.Positivity
import Metering.Rounded

/-!
# Rounding to the grid

Rounding moves a number to a nearby one of 53 significant binary digits. The
spacing of these grid points doubles at every power of two, and the point at a
power of two belongs to both sides: this is why rounding does not jump over any
grid point, whichever spacing that one has.

* `leadingPlace_spec`: the leading place is that of the first binary digit;
* `OnGrid`: a number of 53 significant binary digits at most;
* `OnGrid.le_nearest`, `OnGrid.nearest_le`: rounding stays on its side of a grid point;
* `OnGrid.nearest_eq`: a grid point is rounded to itself.
-/

namespace Metering.Rounded

/-! ### The nearest integer -/

theorem le_nearestInt {n : Int} {q : Rat} (h : (n : Rat) ≤ q) : n ≤ nearestInt q := by
  have hfloor : n ≤ q.floor := Rat.le_floor_iff.2 h
  simp only [nearestInt]
  split_ifs <;> omega

theorem nearestInt_le {n : Int} {q : Rat} (h : q ≤ n) : nearestInt q ≤ n := by
  simp only [nearestInt]
  rcases h.eq_or_lt with rfl | h
  · -- An integer has no rest.
    rw [Rat.floor_intCast, sub_self, if_pos (by norm_num)]
  · have hfloor : q.floor < n := Rat.floor_lt_iff.2 h
    split_ifs <;> omega

/-! ### The place of the leading digit -/

theorem abs_eq_div (q : Rat) : q.abs = (q.num.natAbs : Rat) / q.den := by
  have habs : q.abs = |q| := by
    rcases le_total 0 q with h | h
    · rw [Rat.abs_of_nonneg h, abs_of_nonneg h]
    · rw [Rat.abs_of_nonpos h, abs_of_nonpos h]
  have hq : |q| = |(q.num : Rat) / q.den| := by rw [Rat.num_div_den]
  rw [habs, hq, abs_div, Nat.abs_cast, Nat.cast_natAbs, Int.cast_abs]

/-- The leading place of `q ≠ 0` is that of its leading binary digit. -/
theorem leadingPlace_spec {q : Rat} (hq : q ≠ 0) :
    (2 : Rat) ^ leadingPlace q ≤ q.abs ∧ q.abs < (2 : Rat) ^ (leadingPlace q + 1) := by
  have hnum : q.num.natAbs ≠ 0 := Int.natAbs_ne_zero.2 (Rat.num_ne_zero.2 hq)
  have hn : ((2 ^ q.num.natAbs.log2 : Nat) : Rat) ≤ q.num.natAbs := by
    exact_mod_cast Nat.log2_self_le hnum
  have hn' : (q.num.natAbs : Rat) < (2 ^ (q.num.natAbs.log2 + 1) : Nat) := by
    exact_mod_cast Nat.lt_log2_self
  have hd : ((2 ^ q.den.log2 : Nat) : Rat) ≤ q.den := by
    exact_mod_cast Nat.log2_self_le q.den_ne_zero
  have hd' : (q.den : Rat) < (2 ^ (q.den.log2 + 1) : Nat) := by exact_mod_cast Nat.lt_log2_self
  have hpos : (0 : Rat) < q.den := by exact_mod_cast q.den_pos
  -- The logarithms of numerator and denominator determine the place up to one.
  have hlower : (2 : Rat) ^ ((q.num.natAbs.log2 : Int) - q.den.log2 - 1) ≤ q.abs := by
    rw [abs_eq_div, le_div_iff₀ hpos]
    calc (2 : Rat) ^ ((q.num.natAbs.log2 : Int) - q.den.log2 - 1) * q.den
        ≤ (2 : Rat) ^ ((q.num.natAbs.log2 : Int) - q.den.log2 - 1) *
            (2 ^ (q.den.log2 + 1) : Nat) := by gcongr
      _ = (2 ^ q.num.natAbs.log2 : Nat) := by
        push_cast
        rw [← zpow_natCast, ← zpow_natCast, ← zpow_add₀ two_ne_zero]
        congr 1
        omega
      _ ≤ q.num.natAbs := hn
  have hupper : q.abs < (2 : Rat) ^ ((q.num.natAbs.log2 : Int) - q.den.log2 + 1) := by
    rw [abs_eq_div, div_lt_iff₀ hpos]
    calc (q.num.natAbs : Rat) < (2 ^ (q.num.natAbs.log2 + 1) : Nat) := hn'
      _ = (2 : Rat) ^ ((q.num.natAbs.log2 : Int) - q.den.log2 + 1) * (2 ^ q.den.log2 : Nat) := by
        push_cast
        rw [← zpow_natCast, ← zpow_natCast, ← zpow_add₀ two_ne_zero]
        congr 1
        omega
      _ ≤ (2 : Rat) ^ ((q.num.natAbs.log2 : Int) - q.den.log2 + 1) * q.den := by gcongr
  simp only [leadingPlace]
  split_ifs with h
  · exact ⟨h, hupper⟩
  · exact ⟨hlower, by rw [sub_add_cancel]; exact not_le.1 h⟩

theorem spacing_pos (q : Rat) : 0 < spacing q := zpow_pos two_pos _

theorem spacing_neg (q : Rat) : spacing (-q) = spacing q := by
  rw [spacing, spacing, leadingPlace, leadingPlace, Rat.num_neg_eq_neg_num, Rat.den_neg_eq_den,
    Int.natAbs_neg, Rat.abs_neg]

/-- The leading digit is 52 places before the last digit of the grid. -/
theorem two_pow_mul_spacing (q : Rat) :
    (2 ^ 52 : Int) * spacing q = (2 : Rat) ^ leadingPlace q := by
  have hcast : ((2 ^ 52 : Int) : Rat) = (2 : Rat) ^ (52 : Int) := by norm_num
  rw [spacing, hcast, ← zpow_add₀ two_ne_zero, add_sub_cancel]

/-! ### The grid -/

/-- A number of 53 significant binary digits at most. -/
def OnGrid (g : Rat) : Prop := ∃ m k : Int, |m| ≤ 2 ^ 53 ∧ g = m * (2 : Rat) ^ k

theorem OnGrid.neg {g : Rat} (h : OnGrid g) : OnGrid (-g) := by
  obtain ⟨m, k, hm, rfl⟩ := h
  exact ⟨-m, k, by rwa [abs_neg], by push_cast; ring⟩

theorem OnGrid.zpow_mul {g : Rat} (h : OnGrid g) (j : Int) : OnGrid ((2 : Rat) ^ j * g) := by
  obtain ⟨m, k, hm, rfl⟩ := h
  refine ⟨m, j + k, hm, ?_⟩
  rw [zpow_add₀ two_ne_zero]
  ring

theorem onGrid_intCast {n : Int} (h : |n| ≤ 2 ^ 53) : OnGrid n := ⟨n, 0, h, by simp⟩

/-- Between a grid point and a number above it there is a multiple of the number's spacing. -/
theorem OnGrid.exists_multiple {g q : Rat} (hg : OnGrid g) (hq : q ≠ 0) (h : g ≤ q) :
    ∃ n : Int, g ≤ n * spacing q ∧ n * spacing q ≤ q := by
  obtain ⟨m, k, hm, rfl⟩ := hg
  obtain ⟨hlead, -⟩ := leadingPlace_spec hq
  by_cases hk : leadingPlace q - 52 ≤ k
  · -- The last digit of the grid point is not behind that of the number.
    have hmultiple : ((m * 2 ^ (k - (leadingPlace q - 52)).toNat : Int) : Rat) * spacing q =
        m * (2 : Rat) ^ k := by
      push_cast
      rw [spacing, mul_assoc, ← zpow_natCast, ← zpow_add₀ two_ne_zero]
      congr 2
      omega
    exact ⟨_, hmultiple.ge, hmultiple.le.trans h⟩
  · -- It is, so the grid point is not farther from zero than the leading digit.
    have hsmall : |(m : Rat) * (2 : Rat) ^ k| ≤ (2 : Rat) ^ leadingPlace q := by
      have hpow : (2 : Rat) ^ k ≤ (2 : Rat) ^ (leadingPlace q - 53) :=
        zpow_le_zpow_right₀ one_le_two (by omega)
      have hm' : |(m : Rat)| ≤ (2 : Rat) ^ (53 : Int) := by exact_mod_cast hm
      rw [abs_mul, abs_of_pos (zpow_pos (two_pos (α := Rat)) k)]
      calc |(m : Rat)| * (2 : Rat) ^ k
          ≤ (2 : Rat) ^ (53 : Int) * (2 : Rat) ^ (leadingPlace q - 53) := by gcongr
        _ = (2 : Rat) ^ leadingPlace q := by rw [← zpow_add₀ two_ne_zero, add_sub_cancel]
    rcases le_total 0 q with hsign | hsign
    · refine ⟨2 ^ 52, ?_, ?_⟩
      · rw [two_pow_mul_spacing]
        exact (le_abs_self _).trans hsmall
      · rw [two_pow_mul_spacing]
        exact hlead.trans (Rat.abs_of_nonneg hsign).le
    · have hlead' : q ≤ -(2 : Rat) ^ leadingPlace q := by
        rw [Rat.abs_of_nonpos hsign] at hlead
        linarith
      refine ⟨-2 ^ 52, ?_, ?_⟩
      · rw [Int.cast_neg, neg_mul, two_pow_mul_spacing]
        exact h.trans hlead'
      · rw [Int.cast_neg, neg_mul, two_pow_mul_spacing]
        exact (neg_le_of_abs_le hsmall).trans h

/-! ### Rounding to the grid -/

theorem nearest_zero : nearest 0 = 0 := if_pos rfl

theorem nearest_of_ne_zero {q : Rat} (hq : q ≠ 0) :
    nearest q = nearestInt (q / spacing q) * spacing q := if_neg hq

/-- Rounding does not go below a grid point. -/
theorem OnGrid.le_nearest {g q : Rat} (hg : OnGrid g) (h : g ≤ q) : g ≤ nearest q := by
  by_cases hq : q = 0
  · rwa [hq, nearest_zero, ← hq]
  · obtain ⟨n, hgn, hnq⟩ := hg.exists_multiple hq h
    have hround : n ≤ nearestInt (q / spacing q) :=
      le_nearestInt ((le_div_iff₀ (spacing_pos q)).2 hnq)
    rw [nearest_of_ne_zero hq]
    calc g ≤ n * spacing q := hgn
      _ ≤ nearestInt (q / spacing q) * spacing q :=
        mul_le_mul_of_nonneg_right (by exact_mod_cast hround) (spacing_pos q).le

/-- Rounding does not go above a grid point. -/
theorem OnGrid.nearest_le {g q : Rat} (hg : OnGrid g) (h : q ≤ g) : nearest q ≤ g := by
  by_cases hq : q = 0
  · rwa [hq, nearest_zero, ← hq]
  · obtain ⟨n, hgn, hnq⟩ := hg.neg.exists_multiple (neg_ne_zero.2 hq) (neg_le_neg h)
    rw [spacing_neg] at hgn hnq
    have hround : nearestInt (q / spacing q) ≤ -n := by
      refine nearestInt_le ((div_le_iff₀ (spacing_pos q)).2 ?_)
      push_cast
      linarith
    have hround' : (nearestInt (q / spacing q) : Rat) ≤ -n := by exact_mod_cast hround
    rw [nearest_of_ne_zero hq]
    calc nearestInt (q / spacing q) * spacing q ≤ -n * spacing q :=
        mul_le_mul_of_nonneg_right hround' (spacing_pos q).le
      _ ≤ g := by linarith

/-- A grid point is rounded to itself. -/
theorem OnGrid.nearest_eq {g : Rat} (hg : OnGrid g) : nearest g = g :=
  le_antisymm (hg.nearest_le le_rfl) (hg.le_nearest le_rfl)

end Metering.Rounded
