/-!
# Saturation

Instants, counters and elapsed seconds are 64-bit integers. An operation that
leaves their range stops at the nearer end (`add`, `sub`, `mul`), or, where the
caller has to know, has no result (`fits?`).

* `toInt_add`, `toInt_sub`, `toInt_mul`: each saturating operation is the exact
  one over the integers, clamped once;
* `fits?_eq_some_iff`, `fits?_eq_none_iff`: an exact result is kept exactly when it is in range;
* `toInt_max`, `toInt_min`: the greater and the lesser of two are so over the integers too.
-/

namespace Metering.Saturation

/-- The integer `n` moved to the nearer end of the 64-bit range if it is outside. -/
def clamp (n : Int) : Int := max (-0x8000000000000000) (min 0x7FFFFFFFFFFFFFFF n)

/-- The sum, stopped at the ends of the range. -/
def add (a b : Int64) : Int64 := Int64.ofIntClamp (a.toInt + b.toInt)

/-- The difference, stopped at the ends of the range. -/
def sub (a b : Int64) : Int64 := Int64.ofIntClamp (a.toInt - b.toInt)

/-- The product, stopped at the ends of the range. -/
def mul (a b : Int64) : Int64 := Int64.ofIntClamp (a.toInt * b.toInt)

/-- The 64-bit integer of value `n`, if there is one. -/
def fits? (n : Int) : Option Int64 :=
  if -0x8000000000000000 ≤ n ∧ n < 0x8000000000000000 then some (Int64.ofInt n) else none

theorem toInt_maxValue : Int64.maxValue.toInt = 0x7FFFFFFFFFFFFFFF := by decide

theorem toInt_ofIntClamp (n : Int) : (Int64.ofIntClamp n).toInt = clamp n := by
  unfold Int64.ofIntClamp clamp
  have hmin : Int64.minValue.toInt = -0x8000000000000000 := by decide
  have hmax := toInt_maxValue
  split
  · split
    · rw [Int64.toInt_ofIntLE]; omega
    · rw [hmax]; omega
  · rw [hmin]; omega

@[simp] theorem toInt_add (a b : Int64) : (add a b).toInt = clamp (a.toInt + b.toInt) :=
  toInt_ofIntClamp _

@[simp] theorem toInt_sub (a b : Int64) : (sub a b).toInt = clamp (a.toInt - b.toInt) :=
  toInt_ofIntClamp _

@[simp] theorem toInt_mul (a b : Int64) : (mul a b).toInt = clamp (a.toInt * b.toInt) :=
  toInt_ofIntClamp _

/-- Nothing moves inside the range. -/
theorem clamp_eq_self {n : Int} (hlo : -0x8000000000000000 ≤ n) (hhi : n < 0x8000000000000000) :
    clamp n = n := by
  unfold clamp; omega

theorem fits?_eq_some_iff {n : Int} {a : Int64} : fits? n = some a ↔ a.toInt = n := by
  unfold fits?
  have := a.toInt_lt
  have := a.le_toInt
  split
  · next h =>
    rw [Option.some.injEq, ← Int64.toInt_inj, Int64.toInt_ofInt_of_le h.1 h.2]
    exact eq_comm
  · next h =>
    constructor
    · intro h'
      cases h'
    · intro h'
      exact absurd ⟨by omega, by omega⟩ h

theorem fits?_eq_none_iff {n : Int} :
    fits? n = none ↔ n < -0x8000000000000000 ∨ 0x8000000000000000 ≤ n := by
  unfold fits?
  split
  · next h => exact iff_of_false nofun (by omega)
  · next h => exact iff_of_true rfl (by omega)

theorem toInt_max (a b : Int64) : (max a b).toInt = max a.toInt b.toInt := by
  have hmax : max a b = if a ≤ b then b else a := rfl
  rw [hmax]
  split
  · next h => rw [Int64.le_iff_toInt_le] at h; omega
  · next h => rw [Int64.le_iff_toInt_le] at h; omega

theorem toInt_min (a b : Int64) : (min a b).toInt = min a.toInt b.toInt := by
  have hmin : min a b = if a ≤ b then a else b := rfl
  rw [hmin]
  split
  · next h => rw [Int64.le_iff_toInt_le] at h; omega
  · next h => rw [Int64.le_iff_toInt_le] at h; omega

end Metering.Saturation
