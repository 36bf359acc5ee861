import Metering.Proofs.Maps
import Metering.Report

/-!
# Charging observations

A report charges observations one after the other, and its sums stop at the ends
of the 64-bit range. What is charged is never negative, so a sum can only stop
at the upper end, and once there it stays: the order of charging is free.

* `Saturation.add_right_comm`: amounts that are not negative are added in any order;
* `Totals.charge_eq`: an observation outside of the period adds zeros;
* `Report.charge_right_comm`, `Report.ofObservations_perm`: a report does not
  depend on the order of its observations.
-/

namespace Metering

/-! ### Sums that stop -/

namespace Saturation

theorem add_zero (t : Int64) : add t 0 = t := by
  rw [← Int64.toInt_inj, toInt_add, Int64.toInt_zero, Int.add_zero]
  exact clamp_eq_self t.le_toInt t.toInt_lt

theorem zero_add (t : Int64) : add 0 t = t := by
  rw [← Int64.toInt_inj, toInt_add, Int64.toInt_zero, Int.zero_add]
  exact clamp_eq_self t.le_toInt t.toInt_lt

/-- What is not negative does not make a sum smaller, even if the sum stops. -/
theorem le_add_right (a : Int64) {b : Int64} (hb : 0 ≤ b) : a ≤ add a b := by
  rw [Int64.le_iff_toInt_le, Int64.toInt_zero] at hb
  have := a.le_toInt
  have := a.toInt_lt
  rw [Int64.le_iff_toInt_le, toInt_add, clamp]
  omega

theorem add_right_comm {a b : Int64} (t : Int64) (ha : 0 ≤ a) (hb : 0 ≤ b) :
    add (add t a) b = add (add t b) a := by
  rw [Int64.le_iff_toInt_le, Int64.toInt_zero] at ha hb
  have := t.le_toInt
  have := t.toInt_lt
  rw [← Int64.toInt_inj, toInt_add, toInt_add, toInt_add, toInt_add]
  -- A sum of what is not negative stops at the upper end only.
  rw [clamp, clamp, clamp, clamp]
  omega

end Saturation

/-! ### What an observation is charged with -/

namespace Observation

/-- The usage that is added for an observation. -/
def counted (o : Observation) (c : Counter) : Int64 :=
  if o.Outside then 0 else o.chargedUsage c

/-- The seconds that are added for an observation. -/
def countedSeconds (o : Observation) : Int64 := if o.Outside then 0 else o.seconds

theorem counted_nonneg (o : Observation) (c : Counter) : 0 ≤ o.counted c := by
  rw [counted, chargedUsage]
  split
  · exact Std.le_refl _
  · split
    · exact Std.le_refl _
    · next h => exact Std.not_lt.1 h

/-- The overlap of an observation that is not outside has whole seconds, or none. -/
theorem countedSeconds_nonneg (o : Observation) : 0 ≤ o.countedSeconds := by
  rw [countedSeconds]
  split
  · exact Std.le_refl _
  · next h =>
    have hduration : 0 ≤ o.overlap.durationMs := Std.not_lt.1 h
    rw [Int64.le_iff_toInt_le, Int64.toInt_zero] at hduration ⊢
    rw [seconds, Int64.toInt_div_of_ne_right _ _ (by decide)]
    exact Int.tdiv_nonneg hduration (by decide)

end Observation

/-! ### The order of charging -/

namespace Totals

/-- The total of a counter. -/
def amount (t : Totals) : Counter → Int64
  | .diskIo => t.diskIoMegs
  | .networkIo => t.networkIoMegs

/-- The same three sums grow, whether the observation is outside of the period or not. -/
theorem charge_eq (t : Totals) (o : Observation) :
    t.charge o = ((t.addDiskIo (o.counted .diskIo)).addNetworkIo (o.counted .networkIo)).addEntity
      o.entity.resourceType o.countedSeconds := by
  rw [charge, Observation.counted, Observation.counted, Observation.countedSeconds]
  split
  · rw [addDiskIo, addNetworkIo, Saturation.add_zero, Saturation.add_zero]
  · rfl

theorem amount_charge (t : Totals) (o : Observation) (c : Counter) :
    (t.charge o).amount c = Saturation.add (t.amount c) (o.counted c) := by
  rw [charge_eq]
  cases c <;> rfl

/-- The number of entities of a kind. -/
def count (t : Totals) (resourceType : String) : UInt64 := t.countByType[resourceType]?.getD 0

/-- An observation is counted under the kind of its entity only. -/
theorem count_charge (t : Totals) (o : Observation) (resourceType : String) :
    (t.charge o).count resourceType =
      t.count resourceType + if resourceType = o.entity.resourceType then 1 else 0 := by
  simp only [charge_eq, count, addDiskIo, addNetworkIo, addEntity,
    Std.ExtTreeMap.getElem?_alter, Std.LawfulEqOrd.compare_eq_iff_eq]
  by_cases h : resourceType = o.entity.resourceType
  · subst h
    rw [if_pos rfl, if_pos rfl, Option.getD_some]
  · rw [if_neg (Ne.symm h), if_neg h, UInt64.add_zero]

theorem charge_right_comm (t : Totals) (a b : Observation) :
    (t.charge a).charge b = (t.charge b).charge a := by
  simp only [charge_eq, addDiskIo, addNetworkIo, addEntity, mk.injEq]
  refine ⟨?_, ?_, ?_, ?_⟩
  · exact Saturation.add_right_comm _ (a.counted_nonneg _) (b.counted_nonneg _)
  · exact Saturation.add_right_comm _ (a.counted_nonneg _) (b.counted_nonneg _)
  · refine alter_right_comm _ fun _ _ => congrArg some ?_
    exact Saturation.add_right_comm _ a.countedSeconds_nonneg b.countedSeconds_nonneg
  · exact alter_right_comm _ fun _ _ => rfl

end Totals

namespace Report

theorem charge_right_comm (r : Report) (a b : Observation) :
    (r.charge a).charge b = (r.charge b).charge a :=
  alter_right_comm r fun _ _ => congrArg some (Totals.charge_right_comm _ a b)

theorem getElem?_charge_self (r : Report) (o : Observation) :
    (r.charge o)[o.entity.dimensions]? = some ((r[o.entity.dimensions]?.getD {}).charge o) :=
  Std.ExtTreeMap.getElem?_alter_self

/-- No other group is touched. -/
theorem getElem?_charge_of_ne {r : Report} {o : Observation} {k : Dimensions}
    (h : k ≠ o.entity.dimensions) : (r.charge o)[k]? = r[k]? :=
  getElem?_alter_of_ne h

/-- An observation that is alone in its group is the group's total. -/
theorem exists_getElem?_charge_empty (o : Observation) (c : Counter) :
    ∃ totals, (charge ∅ o)[o.entity.dimensions]? = some totals ∧ totals.amount c = o.counted c := by
  have hzero : ({} : Totals).amount c = 0 := by cases c <;> rfl
  refine ⟨_, getElem?_charge_self ∅ o, ?_⟩
  rw [Std.ExtTreeMap.getElem?_empty, Option.getD_none, Totals.amount_charge, hzero,
    Saturation.zero_add]

/-- The order in which observations are charged is free. -/
theorem ofObservations_perm {os os' : List Observation} (h : os.Perm os') :
    ofObservations os = ofObservations os' :=
  h.foldl_eq' (fun a _ b _ r => charge_right_comm r a b) ∅

theorem ofObservations_cons (o : Observation) (os : List Observation) :
    ofObservations (o :: os) = (ofObservations os).charge o := by
  rw [ofObservations_perm (List.perm_append_singleton o os).symm, ofObservations,
    List.foldl_append]
  rfl

/-- The number of entities of a kind in a group. -/
def count (r : Report) (k : Dimensions) (resourceType : String) : UInt64 :=
  (r[k]?.getD {}).count resourceType

/-- An observation is counted in its group and under its kind, and nowhere else. -/
theorem count_charge (r : Report) (o : Observation) (k : Dimensions) (resourceType : String) :
    (r.charge o).count k resourceType = r.count k resourceType +
      if k = o.entity.dimensions ∧ resourceType = o.entity.resourceType then 1 else 0 := by
  simp only [count, charge, Std.ExtTreeMap.getElem?_alter, Std.LawfulEqOrd.compare_eq_iff_eq]
  by_cases h : k = o.entity.dimensions
  · subst h
    rw [if_pos rfl, Option.getD_some, Totals.count_charge]
    simp only [true_and]
  · rw [if_neg (Ne.symm h), if_neg fun h' => h h'.1, UInt64.add_zero]

end Report

end Metering
