import Mathlib.Data.UInt
import Metering.Proofs.Charging

/-!
# Exact sums

The totals of a report are made in many small steps, each of which may stop at
the end of the 64-bit range. What comes out is as simple as it could be: the
exact sum over the integers, stopped once.

* `Observation.exactSum`: the sum that a group should be charged with;
* `Totals.Exact`, `Report.Exact`: totals, and a report, that are such sums, stopped once;
* `Totals.Exact.charge`, `Report.Exact.charge`: one more observation is one more term;
* `Report.exact_ofObservations`: every report is exact;
* `Report.Exact.unique`: there is one exact report of given observations only.
-/

namespace Metering

namespace Saturation

/-- Two sums that have stopped at the upper end, if they had to, add up to what their
    exact sum stops at. -/
theorem toInt_add_of_min {a b : Int64} {x y : Int} (hx : 0 ≤ x) (hy : 0 ≤ y)
    (ha : a.toInt = min Int64.maxValue.toInt x) (hb : b.toInt = min Int64.maxValue.toInt y) :
    (add a b).toInt = min Int64.maxValue.toInt (x + y) := by
  rw [toInt_maxValue] at ha hb ⊢
  rw [toInt_add, clamp]
  omega

/-- A single term need not stop. -/
theorem toInt_eq_min (a : Int64) : a.toInt = min Int64.maxValue.toInt a.toInt := by
  have := a.toInt_lt
  rw [toInt_maxValue]
  omega

end Saturation

/-! ### The sums -/

namespace Observation

/-- The observations of entities of a kind. -/
def ofKind (kind : String) (os : List Observation) : List Observation :=
  os.filter (·.entity.resourceType = kind)

/-- The observations of entities of a group. -/
def inGroup (k : Dimensions) (os : List Observation) : List Observation :=
  os.filter (·.entity.dimensions = k)

theorem ofKind_cons (kind : String) (o : Observation) (os : List Observation) :
    ofKind kind (o :: os) =
      if kind = o.entity.resourceType then o :: ofKind kind os else ofKind kind os := by
  simp only [ofKind, List.filter_cons, decide_eq_true_eq, @eq_comm _ kind]

theorem inGroup_cons (k : Dimensions) (o : Observation) (os : List Observation) :
    inGroup k (o :: os) =
      if k = o.entity.dimensions then o :: inGroup k os else inGroup k os := by
  simp only [inGroup, List.filter_cons, decide_eq_true_eq, @eq_comm _ k]

/-- The sum over the observations that are not outside of their period. -/
def exactSum (f : Observation → Int) (os : List Observation) : Int :=
  ((os.filter (¬·.Outside)).map f).sum

theorem exactSum_cons (f : Observation → Int) (o : Observation) (os : List Observation) :
    exactSum f (o :: os) = (if o.Outside then 0 else f o) + exactSum f os := by
  rw [exactSum, exactSum]
  by_cases h : o.Outside
  · rw [List.filter_cons_of_neg (by simpa using h), if_pos h, Int.zero_add]
  · rw [List.filter_cons_of_pos (by simpa using h), if_neg h, List.map_cons, List.sum_cons]

theorem exactSum_append (f : Observation → Int) (xs ys : List Observation) :
    exactSum f (xs ++ ys) = exactSum f xs + exactSum f ys := by
  simp only [exactSum, List.filter_append, List.map_append, List.sum_append]

theorem exactSum_nonneg {f : Observation → Int} (h : ∀ o, ¬o.Outside → 0 ≤ f o)
    (os : List Observation) : 0 ≤ exactSum f os := by
  induction os with
  | nil => exact Int.le_refl 0
  | cons o os ih =>
    rw [exactSum_cons]
    split
    · rwa [Int.zero_add]
    · next hin => exact Int.add_nonneg (h o hin) ih

/-- The usage that a report should give for observations: that of those which are not
    outside of the period, where a counter that went backwards counts as idle. -/
def exactUsage (c : Counter) : List Observation → Int := exactSum fun o => max 0 (o.usage c).toInt

/-- The seconds that a report should give for observations. -/
def exactSeconds : List Observation → Int := exactSum fun o => o.seconds.toInt

theorem exactUsage_nonneg (c : Counter) (os : List Observation) : 0 ≤ exactUsage c os :=
  exactSum_nonneg (fun _ _ => Int.le_max_left 0 _) os

theorem seconds_nonneg {o : Observation} (h : ¬o.Outside) : 0 ≤ o.seconds.toInt := by
  have := o.countedSeconds_nonneg
  rwa [countedSeconds, if_neg h, Int64.le_iff_toInt_le, Int64.toInt_zero] at this

theorem exactSeconds_nonneg (os : List Observation) : 0 ≤ exactSeconds os :=
  exactSum_nonneg (fun _ h => seconds_nonneg h) os

theorem toInt_chargedUsage (o : Observation) (c : Counter) :
    (o.chargedUsage c).toInt = max 0 (o.usage c).toInt := by
  rw [chargedUsage]
  split
  · next h =>
    rw [Int64.lt_iff_toInt_lt, Int64.toInt_zero] at h
    rw [Int64.toInt_zero, Int.max_eq_left (Int.le_of_lt h)]
  · next h =>
    rw [Int64.lt_iff_toInt_lt, Int64.toInt_zero] at h
    rw [Int.max_eq_right (Int.not_lt.1 h)]

theorem exactUsage_cons (c : Counter) (o : Observation) (os : List Observation) :
    exactUsage c (o :: os) = (o.counted c).toInt + exactUsage c os := by
  rw [exactUsage, exactSum_cons, counted]
  split
  · rfl
  · rw [toInt_chargedUsage]

theorem exactSeconds_cons (o : Observation) (os : List Observation) :
    exactSeconds (o :: os) = o.countedSeconds.toInt + exactSeconds os := by
  rw [exactSeconds, exactSum_cons, countedSeconds]
  split <;> rfl

end Observation

/-! ### Exact totals -/

open Observation (exactUsage exactSeconds ofKind inGroup)

namespace Totals

/-- The seconds of a kind of resource. -/
def seconds (t : Totals) (kind : String) : Int64 := t.secondsByType[kind]?.getD 0

/-- The totals of the observations `os`: each sum is the exact one, stopped once, and
    the kinds of resource are those that were observed. -/
structure Exact (t : Totals) (os : List Observation) : Prop where
  amount : ∀ c, (t.amount c).toInt = min Int64.maxValue.toInt (exactUsage c os)
  seconds : ∀ kind, (t.seconds kind).toInt =
    min Int64.maxValue.toInt (exactSeconds (ofKind kind os))
  count : ∀ kind, t.count kind = .ofNat (ofKind kind os).length
  timed : ∀ kind, kind ∈ t.secondsByType ↔ ∃ o ∈ os, o.entity.resourceType = kind
  counted : ∀ kind, kind ∈ t.countByType ↔ ∃ o ∈ os, o.entity.resourceType = kind

theorem seconds_charge (t : Totals) (o : Observation) (kind : String) :
    (t.charge o).seconds kind = if kind = o.entity.resourceType
      then Saturation.add (t.seconds kind) o.countedSeconds else t.seconds kind := by
  simp only [charge_eq, seconds, addDiskIo, addNetworkIo, addEntity,
    Std.ExtTreeMap.getElem?_alter, Std.LawfulEqOrd.compare_eq_iff_eq]
  by_cases h : kind = o.entity.resourceType
  · subst h
    rw [if_pos rfl, if_pos rfl, Option.getD_some]
  · rw [if_neg (Ne.symm h), if_neg h]

theorem mem_secondsByType_charge {t : Totals} {o : Observation} {kind : String} :
    kind ∈ (t.charge o).secondsByType ↔ o.entity.resourceType = kind ∨ kind ∈ t.secondsByType := by
  rw [charge_eq]
  exact mem_alter_some

theorem mem_countByType_charge {t : Totals} {o : Observation} {kind : String} :
    kind ∈ (t.charge o).countByType ↔ o.entity.resourceType = kind ∨ kind ∈ t.countByType := by
  rw [charge_eq]
  exact mem_alter_some

/-- Before anything is observed, all sums are empty. -/
theorem exact_empty : Exact {} [] where
  amount c := by cases c <;> rfl
  seconds _ := rfl
  count _ := rfl
  timed kind := by simp
  counted kind := by simp

/-- One more observation is one more term of the sums. -/
theorem Exact.charge {t : Totals} {os : List Observation} (h : t.Exact os) (o : Observation) :
    (t.charge o).Exact (o :: os) where
  amount c := by
    have hterm := o.counted_nonneg c
    rw [Int64.le_iff_toInt_le, Int64.toInt_zero] at hterm
    rw [amount_charge, Observation.exactUsage_cons, Int.add_comm]
    exact Saturation.toInt_add_of_min (Observation.exactUsage_nonneg c os) hterm (h.amount c)
      (Saturation.toInt_eq_min _)
  seconds kind := by
    have hterm := o.countedSeconds_nonneg
    rw [Int64.le_iff_toInt_le, Int64.toInt_zero] at hterm
    rw [seconds_charge, Observation.ofKind_cons]
    split
    · rw [Observation.exactSeconds_cons, Int.add_comm]
      exact Saturation.toInt_add_of_min (Observation.exactSeconds_nonneg _) hterm (h.seconds kind)
        (Saturation.toInt_eq_min _)
    · exact h.seconds kind
  count kind := by
    rw [count_charge, h.count, Observation.ofKind_cons]
    split
    · rw [List.length_cons, UInt64.ofNat_add]
      rfl
    · exact UInt64.add_zero _
  timed kind := by
    simp only [mem_secondsByType_charge, h.timed, List.mem_cons, exists_eq_or_imp]
  counted kind := by
    simp only [mem_countByType_charge, h.counted, List.mem_cons, exists_eq_or_imp]

/-- The observations tell the exact totals. -/
theorem Exact.unique {t t' : Totals} {os : List Observation} (h : t.Exact os)
    (h' : t'.Exact os) : t = t' := by
  have hamount : ∀ c, t.amount c = t'.amount c := fun c =>
    Int64.toInt_inj.1 ((h.amount c).trans (h'.amount c).symm)
  have hdisk : t.diskIoMegs = t'.diskIoMegs := hamount .diskIo
  have hnetwork : t.networkIoMegs = t'.networkIoMegs := hamount .networkIo
  have hseconds : t.secondsByType = t'.secondsByType :=
    eq_of_mem_iff_of_getD (fun kind => (h.timed kind).trans (h'.timed kind).symm)
      fun kind => Int64.toInt_inj.1 ((h.seconds kind).trans (h'.seconds kind).symm)
  have hcount : t.countByType = t'.countByType :=
    eq_of_mem_iff_of_getD (fun kind => (h.counted kind).trans (h'.counted kind).symm)
      fun kind => (h.count kind).trans (h'.count kind).symm
  cases t
  cases t'
  simp only [mk.injEq]
  exact ⟨hdisk, hnetwork, hseconds, hcount⟩

end Totals

/-! ### Exact reports -/

namespace Report

/-- The totals of a group, empty for a group that nothing was observed of. -/
def totals (r : Report) (k : Dimensions) : Totals := r[k]?.getD {}

/-- The report of the observations `os`: it has the groups of their entities, and gives
    each of them its exact totals. -/
structure Exact (r : Report) (os : List Observation) : Prop where
  groups : ∀ k, k ∈ r ↔ ∃ o ∈ os, o.entity.dimensions = k
  totals : ∀ k, (r.totals k).Exact (inGroup k os)

theorem totals_charge (r : Report) (o : Observation) (k : Dimensions) :
    (r.charge o).totals k =
      if k = o.entity.dimensions then (r.totals k).charge o else r.totals k := by
  rw [totals, totals, charge, Std.ExtTreeMap.getElem?_alter]
  by_cases h : k = o.entity.dimensions
  · subst h
    rw [if_pos Std.ReflOrd.compare_self, if_pos rfl, Option.getD_some]
  · rw [if_neg fun heq => h (Std.LawfulEqOrd.eq_of_compare heq).symm, if_neg h]

theorem exact_empty : Exact ∅ [] where
  groups k := by simp
  totals _ := Totals.exact_empty

theorem Exact.charge {r : Report} {os : List Observation} (h : r.Exact os) (o : Observation) :
    (r.charge o).Exact (o :: os) where
  groups k := by
    rw [Report.charge, mem_alter_some, h.groups]
    simp only [List.mem_cons, exists_eq_or_imp]
  totals k := by
    rw [totals_charge, Observation.inGroup_cons]
    split
    · exact (h.totals k).charge o
    · exact h.totals k

/-- Every report gives the exact sums of what was observed. -/
theorem exact_ofObservations (os : List Observation) : (ofObservations os).Exact os := by
  induction os with
  | nil => exact exact_empty
  | cons o os ih =>
    rw [ofObservations_cons]
    exact ih.charge o

/-- The observations tell the exact report. -/
theorem Exact.unique {r r' : Report} {os : List Observation} (h : r.Exact os)
    (h' : r'.Exact os) : r = r' :=
  eq_of_mem_iff_of_getD (fun k => (h.groups k).trans (h'.groups k).symm) fun k =>
    (h.totals k).unique (h'.totals k)

end Report

end Metering
