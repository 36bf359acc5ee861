import Metering.Proofs.Summing

/-!
# Reports as they grow

A report keeps two breakdowns by kind of resource for each of its groups, and an
observation is charged to both of them on one of two paths. Whatever was observed,
counters that went backwards and samples on one side of the period included, the
two stay in step, nothing becomes negative, and the counts add up to the number
of observations.

* `Totals.InStep`, `Report.Tallies`: what holds of totals, and of a report, after every step;
* `Totals.InStep.charge`, `Report.Tallies.charge`: one more observation keeps it, as long
  as the counts have room;
* `Report.Charged`: what one more observation changes, and what it leaves alone;
* `Report.tallies_of_prefix`: all of this after every step of a run.
-/

namespace Metering

/-! ### Sums over the values of a map -/

section Values

variable {α β : Type} {cmp : α → α → Ordering} [Std.TransCmp cmp] [Std.LawfulEqCmp cmp]
  {m : Std.ExtTreeMap α β cmp} {k : α}

/-- The value at a key, or one of no weight, is a term of the sum over all values. -/
theorem sum_values {weight : β → Nat} {b : β} (hb : weight b = 0) (m : Std.ExtTreeMap α β cmp)
    (k : α) : (m.values.map weight).sum =
      weight (m[k]?.getD b) + ((m.erase k).values.map weight).sum := by
  cases h : m[k]? with
  | none => rw [erase_of_getElem?_eq_none h, Option.getD_none, hb, Nat.zero_add]
  | some v =>
    rw [((values_perm_cons_erase h).map weight).sum_nat, List.map_cons, List.sum_cons,
      Option.getD_some]

/-- A value that weighs `n` more makes the sum `n` greater. -/
theorem sum_values_alter {weight : β → Nat} {b : β} (hb : weight b = 0) {f : Option β → β}
    {n : Nat} (h : weight (f m[k]?) = weight (m[k]?.getD b) + n) :
    ((m.alter k fun v => some (f v)).values.map weight).sum = (m.values.map weight).sum + n := by
  have herase : (m.alter k fun v => some (f v)).erase k = m.erase k := by
    refine Std.ExtTreeMap.ext_getElem? fun j => ?_
    rw [Std.ExtTreeMap.getElem?_erase, Std.ExtTreeMap.getElem?_erase,
      Std.ExtTreeMap.getElem?_alter]
    split
    · rfl
    · rfl
  rw [sum_values hb _ k, sum_values hb m k, herase, Std.ExtTreeMap.getElem?_alter_self,
    Option.getD_some, h]
  exact Nat.add_right_comm ..

/-- Every value of the map is still in the other map, or one that is related to it. -/
def Carried (R : β → β → Prop) (m m' : Std.ExtTreeMap α β cmp) : Prop :=
  ∀ (k : α) v, m[k]? = some v → ∃ v', m'[k]? = some v' ∧ R v v'

theorem carried_alter {R : β → β → Prop} (hrefl : ∀ v, R v v) {f : Option β → β}
    (h : ∀ v, m[k]? = some v → R v (f (some v))) :
    Carried R m (m.alter k fun v => some (f v)) := by
  intro j v hv
  by_cases hj : cmp k j = .eq
  · obtain rfl := Std.LawfulEqCmp.eq_of_compare hj
    exact ⟨f (some v), by rw [Std.ExtTreeMap.getElem?_alter_self, hv], h v hv⟩
  · exact ⟨v, by rw [Std.ExtTreeMap.getElem?_alter, if_neg hj, hv], hrefl v⟩

end Values

/-! ### The totals of a group -/

namespace Totals

/-- The number of entities of all kinds. -/
def entities (t : Totals) : Nat := (t.countByType.values.map UInt64.toNat).sum

theorem entities_empty : entities {} = 0 := rfl

/-- The breakdowns by kind have the same kinds, each of them with an entity at least,
    and nothing is negative. -/
structure InStep (t : Totals) : Prop where
  kinds : ∀ kind, kind ∈ t.secondsByType ↔ kind ∈ t.countByType
  count : ∀ kind ∈ t.countByType, 1 ≤ t.count kind
  amount : ∀ c, 0 ≤ t.amount c
  seconds : ∀ kind, 0 ≤ t.seconds kind

/-- No sum is smaller in the second totals, and no kind of resource is gone. -/
structure Grows (t t' : Totals) : Prop where
  amount : ∀ c, t.amount c ≤ t'.amount c
  seconds : Carried (· ≤ ·) t.secondsByType t'.secondsByType
  count : Carried (· ≤ ·) t.countByType t'.countByType

/-- Before anything is charged there are no kinds. -/
theorem inStep_empty : InStep {} where
  kinds kind := by simp
  count kind hkind := absurd hkind Std.ExtTreeMap.not_mem_empty
  amount c := by cases c <;> exact Std.le_refl 0
  seconds kind := Std.le_refl 0

theorem count_le_entities (t : Totals) (kind : String) : (t.count kind).toNat ≤ t.entities := by
  rw [entities, sum_values UInt64.toNat_zero t.countByType kind]
  exact Nat.le_add_right ..

theorem grows_refl (t : Totals) : t.Grows t where
  amount _ := Std.le_refl _
  seconds _ v hv := ⟨v, hv, Std.le_refl v⟩
  count _ v hv := ⟨v, hv, Std.le_refl v⟩

/-- The time of no other kind is touched. -/
theorem getElem?_secondsByType_charge_of_ne {t : Totals} {o : Observation} {kind : String}
    (h : kind ≠ o.entity.resourceType) :
    (t.charge o).secondsByType[kind]? = t.secondsByType[kind]? := by
  rw [charge_eq]
  exact getElem?_alter_of_ne h

/-- The count of no other kind is touched. -/
theorem getElem?_countByType_charge_of_ne {t : Totals} {o : Observation} {kind : String}
    (h : kind ≠ o.entity.resourceType) :
    (t.charge o).countByType[kind]? = t.countByType[kind]? := by
  rw [charge_eq]
  exact getElem?_alter_of_ne h

section Charge

variable {t : Totals} {o : Observation} (room : t.entities + 1 < UInt64.size)

include room

/-- A count is at most the number of all entities, so it has room for one more. -/
theorem toNat_count_add_one (kind : String) :
    (t.count kind + 1).toNat = (t.count kind).toNat + 1 := by
  have hle := Nat.add_le_add_right (t.count_le_entities kind) 1
  rw [UInt64.toNat_add]
  exact Nat.mod_eq_of_lt (Nat.lt_of_le_of_lt hle room)

theorem entities_charge : (t.charge o).entities = t.entities + 1 := by
  rw [entities, charge_eq]
  exact sum_values_alter UInt64.toNat_zero (toNat_count_add_one room o.entity.resourceType)

/-- One more observation is added to both breakdowns, outside of its period or not. -/
theorem InStep.charge (h : t.InStep) : (t.charge o).InStep where
  kinds kind := by
    rw [mem_secondsByType_charge, mem_countByType_charge, h.kinds]
  count kind hkind := by
    rw [count_charge]
    by_cases hself : kind = o.entity.resourceType
    · rw [if_pos hself, UInt64.le_iff_toNat_le, toNat_count_add_one room]
      exact Nat.le_add_left ..
    · rw [if_neg hself, UInt64.add_zero]
      exact h.count kind ((mem_countByType_charge.1 hkind).resolve_left (Ne.symm hself))
  amount c := by
    rw [amount_charge]
    exact Std.le_trans (h.amount c) (Saturation.le_add_right _ (o.counted_nonneg c))
  seconds kind := by
    rw [seconds_charge]
    split
    · exact Std.le_trans (h.seconds kind) (Saturation.le_add_right _ o.countedSeconds_nonneg)
    · exact h.seconds kind

theorem grows_charge : t.Grows (t.charge o) where
  amount c := by
    rw [amount_charge]
    exact Saturation.le_add_right _ (o.counted_nonneg c)
  seconds := by
    rw [charge_eq]
    exact carried_alter Std.le_refl fun sum _ =>
      Saturation.le_add_right sum o.countedSeconds_nonneg
  count := by
    rw [charge_eq]
    refine carried_alter Std.le_refl fun count hcount => ?_
    have hroom := toNat_count_add_one room o.entity.resourceType
    have hcount : t.countByType[o.entity.resourceType]? = some count := hcount
    rw [Totals.count, hcount, Option.getD_some] at hroom
    rw [Option.getD_some, UInt64.le_iff_toNat_le, hroom]
    exact Nat.le_add_right ..

end Charge

end Totals

/-! ### Reports -/

namespace Report

/-- The number of entities of all groups. -/
def entities (r : Report) : Nat := (r.values.map Totals.entities).sum

/-- The report has the groups of the observations and as many entities as there are
    observations; the totals of every group are in step and have a kind of resource. -/
structure Tallies (r : Report) (os : List Observation) : Prop where
  inStep : ∀ k, (r.totals k).InStep
  occupied : ∀ k ∈ r, ∃ kind, kind ∈ (r.totals k).countByType
  groups : ∀ k, k ∈ r ↔ k ∈ os.map (·.entity.dimensions)
  entities : r.entities = os.length

/-- One more observation changed its own kind in its own group only, and nothing became
    smaller. -/
structure Charged (o : Observation) (r r' : Report) : Prop where
  others : ∀ k, k ≠ o.entity.dimensions → r'[k]? = r[k]?
  seconds : ∀ kind, kind ≠ o.entity.resourceType →
    (r'.totals o.entity.dimensions).secondsByType[kind]? =
      (r.totals o.entity.dimensions).secondsByType[kind]?
  count : ∀ kind, kind ≠ o.entity.resourceType →
    (r'.totals o.entity.dimensions).countByType[kind]? =
      (r.totals o.entity.dimensions).countByType[kind]?
  grows : Carried Totals.Grows r r'

theorem entities_totals_le (r : Report) (k : Dimensions) : (r.totals k).entities ≤ r.entities := by
  rw [entities, sum_values Totals.entities_empty r k]
  exact Nat.le_add_right ..

theorem tallies_empty : Tallies ∅ [] where
  inStep _ := Totals.inStep_empty
  occupied k hk := absurd hk Std.ExtTreeMap.not_mem_empty
  groups k := by simp
  entities := rfl

section Charge

variable {r : Report} {o : Observation} (room : r.entities + 1 < UInt64.size)

include room

theorem room_totals (k : Dimensions) : (r.totals k).entities + 1 < UInt64.size :=
  Nat.lt_of_le_of_lt (Nat.add_le_add_right (r.entities_totals_le k) 1) room

theorem entities_charge : (r.charge o).entities = r.entities + 1 :=
  sum_values_alter Totals.entities_empty
    (Totals.entities_charge (room_totals room o.entity.dimensions))

/-- One more observation is one more entity, in its group. -/
theorem Tallies.charge {os : List Observation} (h : r.Tallies os) :
    (r.charge o).Tallies (os ++ [o]) where
  inStep k := by
    rw [totals_charge]
    split
    · exact (h.inStep k).charge (room_totals room k)
    · exact h.inStep k
  occupied k hk := by
    rw [totals_charge]
    by_cases hself : k = o.entity.dimensions
    · rw [if_pos hself]
      exact ⟨o.entity.resourceType, Totals.mem_countByType_charge.2 (.inl rfl)⟩
    · rw [if_neg hself]
      exact h.occupied k ((mem_alter_some.1 hk).resolve_left (Ne.symm hself))
  groups k := by
    rw [Report.charge, mem_alter_some, h.groups, List.map_append, List.mem_append,
      List.map_singleton, List.mem_singleton, or_comm, @eq_comm _ k]
  entities := by
    rw [entities_charge room, h.entities, List.length_append, List.length_singleton]

/-- The step of a report changes one kind in one group. -/
theorem charged_charge : Charged o r (r.charge o) where
  others k hk := getElem?_charge_of_ne hk
  seconds kind hkind := by
    rw [totals_charge, if_pos rfl, Totals.getElem?_secondsByType_charge_of_ne hkind]
  count kind hkind := by
    rw [totals_charge, if_pos rfl, Totals.getElem?_countByType_charge_of_ne hkind]
  grows := by
    refine carried_alter Totals.grows_refl fun t ht => ?_
    have hroom := room_totals room o.entity.dimensions
    rw [totals, ht, Option.getD_some] at hroom
    exact Totals.grows_charge hroom

end Charge

theorem ofObservations_concat (os : List Observation) (o : Observation) :
    ofObservations (os ++ [o]) = (ofObservations os).charge o := by
  rw [ofObservations, List.foldl_append]
  rfl

/-- A report tallies with its observations, if they are fewer than a count can hold. -/
theorem tallies_ofObservations {os : List Observation} (hlength : os.length < UInt64.size) :
    (ofObservations os).Tallies os := by
  -- The last observation is charged last, and the entities before it leave the counts room.
  induction os using List.reverseRecOn with
  | nil => exact tallies_empty
  | append_singleton os o ih =>
    rw [List.length_append, List.length_singleton] at hlength
    have h := ih (Nat.lt_of_succ_lt hlength)
    rw [ofObservations_concat]
    exact h.charge (h.entities ▸ hlength)

/-- On the way to a report, after every step, the report tallies with the observations so
    far and has as many groups as these have different dimensions. Each step changes its own
    kind in its own group only, and makes nothing smaller. -/
theorem tallies_of_prefix {os : List Observation} (hlength : os.length < UInt64.size) :
    (∀ done, done <+: os → (ofObservations done).Tallies done ∧
      (ofObservations done).size = (done.map (·.entity.dimensions)).dedup.length) ∧
    ∀ done o, done ++ [o] <+: os →
      Charged o (ofObservations done) (ofObservations (done ++ [o])) := by
  constructor
  · intro done hdone
    have h := tallies_ofObservations (Nat.lt_of_le_of_lt hdone.length_le hlength)
    exact ⟨h, size_eq_length_dedup h.groups⟩
  · intro done o hdone
    have hstep := Nat.lt_of_le_of_lt hdone.length_le hlength
    rw [List.length_append, List.length_singleton] at hstep
    have h := tallies_ofObservations (Nat.lt_of_succ_lt hstep)
    rw [ofObservations_concat]
    exact charged_charge (h.entities ▸ hstep)

/-- Three machines of one group and one of another: a counter that goes backwards, samples
    before the period, a second kind in the group, and samples in the wrong order around a
    period that ends before it begins. -/
theorem tallies_of_prefix_going_back :
    let entity : String → String → String → Entity := fun x kind owner =>
      ⟨x, "vm", kind, owner, "account", "cluster", "zone"⟩
    let p : Period := ⟨10000, 20000⟩
    let done : List Observation := [
      ⟨entity "a" "small" "owner", ⟨"a", 12000, 9, 0⟩, ⟨"a", 15500, 3, 4⟩, p⟩,
      ⟨entity "b" "small" "owner", ⟨"b", 1000, 0, 0⟩, ⟨"b", 2000, 50, 50⟩, p⟩,
      ⟨entity "c" "large" "owner", ⟨"c", 9000, 0, 0⟩, ⟨"c", 19000, 7, 1⟩, p⟩]
    let o : Observation :=
      ⟨entity "d" "small" "other", ⟨"d", 18000, 0, 0⟩, ⟨"d", 11000, 5, 5⟩, ⟨20000, 10000⟩⟩
    (done ++ [o]).length < UInt64.size ∧ (ofObservations (done ++ [o])).entities = 4 ∧
      (ofObservations (done ++ [o])).size = 2 ∧ (ofObservations done).size = 1 ∧
      Charged o (ofObservations done) (ofObservations (done ++ [o])) := by
  intro entity p done o
  have hlength : (done ++ [o]).length < UInt64.size := by decide
  obtain ⟨htallies, hcharged⟩ := tallies_of_prefix hlength
  have hdone := htallies done (List.prefix_append done [o])
  have hall := htallies (done ++ [o]) (List.prefix_refl _)
  exact ⟨hlength, hall.1.entities, hall.2.trans (by decide), hdone.2.trans (by decide),
    hcharged done o (List.prefix_refl _)⟩

end Report

end Metering
