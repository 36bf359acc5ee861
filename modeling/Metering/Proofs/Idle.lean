import Metering.Proofs.Identities
import Metering.Proofs.Rounding
import Metering.Proofs.Summing

/-!
# Idle counters

A counter that reads the same in both samples of an observation did not move, and nothing
is charged for it, wherever the samples lie. This needs care where the bounds of a period
are so far from zero that they are rounded to one number. The period then has no length to
divide by, and what a growth is scaled by is infinite or no number at all; but nothing,
scaled by that, is no number, and this counts as zero too.

* `Rounded.IsNothing`: what counts as zero in the end, also after it was scaled;
* `Period.Collapsed`, `remainder_ne_finite_of_collapsed`: periods without a length, and
  what scaling makes of them;
* `usage_of_idle`: a counter that did not move makes no usage, whatever it is scaled by;
* `amount_of_idle`: what idle counters, and identities with a single row, add to
  the totals of a report.
-/

namespace Metering

namespace Rounded

/-! ### Zero -/

/-- Nothing, or no number: what counts as zero in the end. -/
def IsNothing (x : Rounded) : Prop := x = finite 0 ∨ x = undefined

theorem ofInt_sub_self (n : Int) : (ofInt n).sub (ofInt n) = finite 0 := by
  rw [ofInt, sub, sub_self, nearest_zero]

/-- Nothing stays nothing, also if it is scaled by what is infinite or no number. -/
theorem IsNothing.mul {x : Rounded} (h : IsNothing x) (y : Rounded) : IsNothing (x.mul y) := by
  rcases h with rfl | rfl
  · cases y with
    | finite b => exact .inl (by rw [Rounded.mul, zero_mul, nearest_zero])
    | infinite s => exact .inr (by rw [Rounded.mul, scaleInfinite, if_pos rfl])
    | undefined => exact .inr rfl
  · exact .inr rfl

theorem IsNothing.truncate_eq {x : Rounded} (h : IsNothing x) : x.truncate = 0 := by
  rcases h with rfl | rfl
  · decide
  · rfl

end Rounded

/-- The bounds of the period are rounded to one number. -/
def Period.Collapsed (p : Period) : Prop :=
  Rounded.ofInt p.beginningMs.toInt = Rounded.ofInt p.endingMs.toInt

namespace Observation

variable {o : Observation} {c : Counter}

/-! ### Periods without a length -/

theorem elapsed_of_collapsed {p : Period} (h : p.Collapsed) :
    elapsed p.beginningMs p.endingMs = .finite 0 := by
  rw [elapsed, h, Rounded.ofInt_sub_self]

/-- In a period without a length no factor is a number. -/
theorem remainder_ne_finite_of_collapsed {p : Period} (h : p.Collapsed) (gap : Rounded)
    (q : Rat) : remainder gap (elapsed p.beginningMs p.endingMs) ≠ .finite q := by
  rw [elapsed_of_collapsed h, remainder]
  cases gap with
  | finite a =>
    rw [Rounded.div, if_pos rfl]
    split
    · exact nofun
    · exact nofun
  | infinite s => exact nofun
  | undefined => exact nofun

/-! ### Idle counters -/

/-- A counter that reads the same in both samples makes no usage. -/
theorem usage_of_idle (h : o.first.reading c = o.last.reading c) : o.usage c = 0 := by
  have hgrowth : (o.growth c).IsNothing := by
    rw [growth, h]
    exact .inl (Rounded.ofInt_sub_self _)
  simp only [usage]
  split_ifs
  · exact ((hgrowth.mul _).mul _).truncate_eq
  · exact (hgrowth.mul _).truncate_eq
  · exact (hgrowth.mul _).truncate_eq
  · exact hgrowth.truncate_eq

theorem counted_of_idle (h : o.first.reading c = o.last.reading c) : o.counted c = 0 := by
  rw [counted, chargedUsage, usage_of_idle h]
  split_ifs <;> rfl

end Observation

/-! ### Idle counters in reports -/

namespace Row

/-- The counter reads the same in the first row of the identity and in the last. -/
def Idle (c : Counter) (x : String) (rows : List Row) : Prop :=
  ∀ first last, (withIdentity x rows).head? = some first →
    (withIdentity x rows).getLast? = some last →
    first.snapshot.reading c = last.snapshot.reading c

/-- The single row of an identity is its first one and its last. -/
theorem idle_of_single {x : String} {rows : List Row} (h : (withIdentity x rows).length = 1)
    (c : Counter) : Idle c x rows := by
  obtain ⟨row, hrow⟩ := List.length_eq_one_iff.1 h
  intro first last hfirst hlast
  rw [hrow] at hfirst hlast
  cases hfirst
  cases hlast
  rfl

end Row

/-- An observation adds nothing to the total of a counter that did not move, in no group. -/
theorem Report.amount_totals_charge_of_idle {o : Observation} {c : Counter}
    (h : o.first.reading c = o.last.reading c) (r : Report) (k : Dimensions) :
    ((r.charge o).totals k).amount c = (r.totals k).amount c := by
  rw [totals_charge]
  split
  · rw [Totals.amount_charge, Observation.counted_of_idle h, Saturation.add_zero]
  · rfl

namespace Observation

open Report (ofObservations)

/-- A counter with equal first and last readings makes no usage, whatever the instants of
    the samples and the bounds of the period are: also in a period whose bounds are rounded
    to one number, in which no factor is a number. One more such observation leaves the
    total of the counter as it was, in every group. And so the rows of an identity that has
    one row only, or whose counter is idle, may as well be left out of a report: no total of
    the counter changes. -/
theorem amount_of_idle (c : Counter) :
    (∀ o : Observation, o.first.reading c = o.last.reading c → o.usage c = 0 ∧
      ∀ (r : Report) (k : Dimensions),
        ((r.charge o).totals k).amount c = (r.totals k).amount c) ∧
    (∀ p : Period, p.Collapsed → ∀ gap q,
      remainder gap (elapsed p.beginningMs p.endingMs) ≠ .finite q) ∧
    ∀ (rows : List Row) (p : Period) (x : String),
      (Row.withIdentity x rows).length = 1 ∨ Row.Idle c x rows → ∀ k : Dimensions,
        ((ofObservations (gather rows p).values).totals k).amount c =
          ((ofObservations (gather (Row.withoutIdentity x rows) p).values).totals k).amount c := by
  refine ⟨fun o h => ⟨usage_of_idle h, Report.amount_totals_charge_of_idle h⟩,
    fun p h => remainder_ne_finite_of_collapsed h, fun rows p x h k => ?_⟩
  have hidle : Row.Idle c x rows := h.elim (fun single => Row.idle_of_single single c) id
  rw [gather_withoutIdentity]
  cases ho : (gather rows p)[x]? with
  | none => rw [erase_of_getElem?_eq_none ho]
  | some o =>
    -- The observation of the identity may as well be charged last.
    rw [Report.ofObservations_perm (values_perm_cons_erase ho), Report.ofObservations_cons]
    obtain ⟨first, last, hfirst, hlast, rfl⟩ := getElem?_gather.1 ho
    exact Report.amount_totals_charge_of_idle (hidle first last hfirst hlast) _ k

/-- A valid period without a length, and a machine that is sampled before it and after it
    while its disk counter does not move: this is scaled by an infinite factor, and then by
    one that is no number. Another machine has one sample. -/
theorem amount_of_idle_collapsed :
    let entity : String → Entity := fun x =>
      ⟨x, "vm", "small", "owner", "account", "cluster", "zone"⟩
    let p : Period := ⟨1152921504606846977, 1152921504606846978⟩
    let first : Snapshot := ⟨"a", 0, 500, 3⟩
    let last : Snapshot := ⟨"a", 1152921504606846979, 500, 9⟩
    let rows : List Row :=
      [⟨entity "a", first⟩, ⟨entity "b", ⟨"b", -7, 40, 50⟩⟩, ⟨entity "a", last⟩]
    let total : List Row → Counter → Int64 := fun rows c =>
      ((ofObservations (gather rows p).values).totals (entity "a").dimensions).amount c
    p.Valid ∧ p.Collapsed ∧
      remainder (elapsed first.timestampMs p.beginningMs) (elapsed p.beginningMs p.endingMs) =
        .infinite true ∧
      remainder (elapsed p.endingMs last.timestampMs) (elapsed p.beginningMs p.endingMs) =
        .undefined ∧
      (⟨entity "a", first, last, p⟩ : Observation).usage .diskIo = 0 ∧
      total rows .diskIo = total (Row.withoutIdentity "a" rows) .diskIo ∧
      ∀ c, total rows c = total (Row.withoutIdentity "b" rows) c := by
  intro entity p first last rows total
  have collapsed : p.Collapsed := by
    rw [Period.Collapsed]
    decide +kernel
  have idle : Row.Idle .diskIo "a" rows := by
    intro first last hfirst hlast
    cases hfirst
    cases hlast
    rfl
  obtain ⟨husage, -, hrows⟩ := amount_of_idle .diskIo
  exact ⟨by decide, collapsed, by decide +kernel, by decide +kernel, (husage _ rfl).1,
    hrows rows p "a" (.inr idle) _,
    fun c => (amount_of_idle c).2.2 rows p "b" (.inl (by decide)) _⟩

end Observation

end Metering
