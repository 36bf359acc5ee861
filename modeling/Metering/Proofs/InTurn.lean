import Mathlib.Data.List.Nodup
import Metering.Store.Script
import Metering.Turns

/-!
# One purge at a time

However the moves of the callers are interleaved, their purges come out as if each
had been made as a whole, in the order in which the callers took the lock. The
store may answer as it likes: a purge that fails gives the lock back as well.

* `inTurn`: purges one after the other, each as a whole;
* `admissions`: the callers that take the lock along a schedule, in order;
* `Stage`: where all callers stand when some have had their turn and at most one is
  having it. A move leads from stage to stage (`Stage.move`), so a schedule does;
* `serializable`: exclusion, results and store after every schedule, and that
  the lock always comes back.
-/

namespace Metering.Turns

variable {σ : Type} [SnapshotStore σ]

/-! ### Purges one after the other -/

/-- The purges of callers, one after the other and each as a whole: their results and
    the store after them. One that fails does not keep the next from its turn. -/
def inTurn : List (Nat × Int64) → σ → List (Nat × Except StoreError PurgeCounts) × σ
  | [], s => ([], s)
  | (caller, cutoffMs) :: rest, s =>
    let purged := (SnapshotStore.purge cutoffMs).run s
    let others := inTurn rest purged.2
    ((caller, purged.1) :: others.1, others.2)

section InTurn

variable {order : List (Nat × Int64)} {s s' : σ} {i : Nat} {c : Int64}
  {result : Except StoreError PurgeCounts}

theorem inTurn_concat (h : (SnapshotStore.purge c).run (inTurn order s).2 = (result, s')) :
    inTurn (order ++ [(i, c)]) s = ((inTurn order s).1 ++ [(i, result)], s') := by
  induction order generalizing s with
  | nil =>
    have h : (SnapshotStore.purge c).run s = (result, s') := h
    simp only [List.nil_append, inTurn, h]
  | cons e order ih =>
    obtain ⟨caller, cutoffMs⟩ := e
    simp only [List.cons_append, inTurn, ih h]

theorem map_fst_inTurn (order : List (Nat × Int64)) (s : σ) :
    (inTurn order s).1.map (·.1) = order.map (·.1) := by
  induction order generalizing s with
  | nil => rfl
  | cons e order ih =>
    obtain ⟨caller, cutoffMs⟩ := e
    simp only [inTurn, List.map_cons, ih]

/-- Only a caller without a turn has no result. -/
theorem lookup_inTurn_eq_none_iff :
    (inTurn order s).1.lookup i = none ↔ i ∉ order.map (·.1) := by
  rw [← map_fst_inTurn order s, List.lookup_eq_none_iff]
  simp only [bne_iff_ne, List.mem_map, not_exists, not_and]
  exact ⟨fun h e he heq => h e he heq.symm, fun h e he heq => h e he heq.symm⟩

theorem mem_of_lookup_inTurn (h : (inTurn order s).1.lookup i = some result) :
    (i, result) ∈ (inTurn order s).1 := by
  obtain ⟨before, rest, heq, -⟩ := List.lookup_eq_some_iff.1 h
  rw [heq]
  exact List.mem_append_right before List.mem_cons_self

/-- A caller that takes one turn has one result. -/
theorem lookup_inTurn_of_mem (hnodup : (order.map (·.1)).Nodup)
    (h : (i, result) ∈ (inTurn order s).1) : (inTurn order s).1.lookup i = some result := by
  rw [← map_fst_inTurn order s] at hnodup
  rcases hlookup : (inTurn order s).1.lookup i with _ | other
  · exact absurd (List.lookup_eq_none_iff.1 hlookup _ h) (by simp)
  · have hsame := List.inj_on_of_nodup_map hnodup (mem_of_lookup_inTurn hlookup) h rfl
    rw [Prod.mk.injEq] at hsame
    rw [hsame.2]

end InTurn

/-! ### Moves -/

/-- The state after the moves of a schedule. -/
def after (t : Turns σ) (schedule : List Nat) : Turns σ :=
  schedule.foldl (fun t i => (t.move? i).getD t) t

/-- The caller, if it takes the lock with its next move, and the instant it purges before. -/
def admits? (t : Turns σ) (i : Nat) : Option (Nat × Int64) :=
  match t.callers[i]? with
  | some (.waiting cutoffMs) => if t.isFree then some (i, cutoffMs) else none
  | _ => none

/-- The callers that take the lock along a schedule, in their order, with the instants
    they purge before. -/
def admissions : Turns σ → List Nat → List (Nat × Int64)
  | _, [] => []
  | t, i :: rest => (t.admits? i).toList ++ admissions ((t.move? i).getD t) rest

section Moves

variable {t : Turns σ} {s' : σ} {i : Nat} {c : Int64} {purging : SnapshotStore.Purging σ}
  {result : Except StoreError PurgeCounts}

theorem move?_of_none (h : t.callers[i]? = none) : t.move? i = none := by
  simp only [move?, h]

theorem move?_of_served (h : t.callers[i]? = some (.served result)) : t.move? i = none := by
  simp only [move?, h]

theorem move?_of_waiting (h : t.callers[i]? = some (.waiting c)) (hfree : t.isFree = true) :
    t.move? i = some { t with isFree := false, callers := t.callers.set i (.admitted c) } := by
  simp only [move?, h, hfree, if_true]

theorem move?_of_waiting_in_vain (h : t.callers[i]? = some (.waiting c))
    (hfree : t.isFree = false) : t.move? i = none := by
  simp [move?, h, hfree]

theorem move?_of_admitted (h : t.callers[i]? = some (.admitted c))
    (hbegin : (SnapshotStore.beginPurge c : StateM σ _) t.store = (purging, s')) :
    t.move? i = some { t with store := s', callers := t.callers.set i (.inside purging) } := by
  simp only [move?, h, hbegin]

theorem move?_of_inside (h : t.callers[i]? = some (.inside purging))
    (hend : (SnapshotStore.endPurge purging).run t.store = (result, s')) :
    t.move? i = some { t with store := s', callers := t.callers.set i (.leaving result) } := by
  simp only [move?, h, hend]

theorem move?_of_leaving (h : t.callers[i]? = some (.leaving result)) :
    t.move? i = some { t with isFree := true, callers := t.callers.set i (.served result) } := by
  simp only [move?, h]

theorem admits?_of_waiting (h : t.callers[i]? = some (.waiting c)) (hfree : t.isFree = true) :
    t.admits? i = some (i, c) := by
  simp only [admits?, h, hfree, if_true]

/-- Taking the lock is a move. -/
theorem admits?_of_move?_eq_none (h : t.move? i = none) : t.admits? i = none := by
  rw [admits?]
  split
  · next c hc =>
    rcases hfree : t.isFree with _ | _
    · rfl
    · rw [move?_of_waiting hc hfree] at h
      cases h
  · rfl

/-- A caller that has the lock does not take it. -/
theorem admits?_of_hasLock {phase : Phase σ} (h : t.callers[i]? = some phase)
    (hlock : phase.hasLock = true) : t.admits? i = none := by
  rw [admits?, h]
  cases phase with
  | waiting c => cases hlock
  | _ => rfl

end Moves

/-! ### Stages -/

/-- No caller takes the lock twice, and each asks to purge before its own instant. -/
structure Orderly (cutoffs : List Int64) (order : List (Nat × Int64)) : Prop where
  nodup : (order.map (·.1)).Nodup
  cutoff : ∀ e ∈ order, cutoffs[e.1]? = some e.2

theorem Orderly.nil (cutoffs : List Int64) : Orderly cutoffs [] :=
  ⟨List.nodup_nil, fun _ he => absurd he List.not_mem_nil⟩

theorem Orderly.concat {cutoffs : List Int64} {order : List (Nat × Int64)} {i : Nat} {c : Int64}
    (h : Orderly cutoffs order) (hcutoff : cutoffs[i]? = some c) (hnew : i ∉ order.map (·.1)) :
    Orderly cutoffs (order ++ [(i, c)]) := by
  refine ⟨?_, List.forall_mem_append.2 ⟨h.cutoff, List.forall_mem_singleton.2 hcutoff⟩⟩
  rw [List.map_append, List.map_singleton, ← List.concat_eq_append]
  exact List.Nodup.concat hnew h.nodup

/-- Where the callers stand when those in the order have had their turn, and nobody is
    having it. -/
def callersAfter (s : σ) (cutoffs : List Int64) (order : List (Nat × Int64)) : List (Phase σ) :=
  cutoffs.mapIdx fun i c =>
    match (inTurn order s).1.lookup i with
    | some result => .served result
    | none => .waiting c

/-- How far a caller with the lock has come that purges a store before an instant, and
    what has become of the store. -/
inductive Holding (c : Int64) (s : σ) : Phase σ → σ → Prop
  | admitted : Holding c s (.admitted c) s
  | inside {purging : SnapshotStore.Purging σ} {s' : σ} :
      (SnapshotStore.beginPurge c : StateM σ _) s = (purging, s') →
      Holding c s (.inside purging) s'
  | leaving {result : Except StoreError PurgeCounts} {s' : σ} :
      (SnapshotStore.purge c).run s = (result, s') → Holding c s (.leaving result) s'

/-- What callers and store come to when the callers in the order have taken the lock. All
    but the last have had their turn, and so has the last if the lock is free. -/
inductive Stage (s : σ) (cutoffs : List Int64) : List (Nat × Int64) → Turns σ → Prop
  | idle {order : List (Nat × Int64)} :
      Orderly cutoffs order →
      Stage s cutoffs order ⟨(inTurn order s).2, true, callersAfter s cutoffs order⟩
  | busy {order : List (Nat × Int64)} {i : Nat} {c : Int64} {phase : Phase σ} {s' : σ} :
      Orderly cutoffs order → cutoffs[i]? = some c → i ∉ order.map (·.1) →
      Holding c (inTurn order s).2 phase s' →
      Stage s cutoffs (order ++ [(i, c)]) ⟨s', false, (callersAfter s cutoffs order).set i phase⟩

section Stages

variable {s s' : σ} {cutoffs : List Int64} {order : List (Nat × Int64)} {t : Turns σ} {i j : Nat}
  {c : Int64} {phase : Phase σ} {result : Except StoreError PurgeCounts}

theorem length_callersAfter (s : σ) (cutoffs : List Int64) (order : List (Nat × Int64)) :
    (callersAfter s cutoffs order).length = cutoffs.length := List.length_mapIdx

theorem getElem?_callersAfter_of_lookup (hcutoff : cutoffs[i]? = some c)
    (h : (inTurn order s).1.lookup i = some result) :
    (callersAfter s cutoffs order)[i]? = some (.served result) := by
  rw [callersAfter, List.getElem?_mapIdx, hcutoff, Option.map_some, h]

theorem getElem?_callersAfter_of_mem (horderly : Orderly cutoffs order)
    (hmem : (i, result) ∈ (inTurn order s).1) :
    (callersAfter s cutoffs order)[i]? = some (.served result) := by
  have hi : i ∈ order.map (·.1) := by
    rw [← map_fst_inTurn order s]
    exact List.mem_map_of_mem hmem
  obtain ⟨e, he, rfl⟩ := List.mem_map.1 hi
  exact getElem?_callersAfter_of_lookup (horderly.cutoff e he)
    (lookup_inTurn_of_mem horderly.nodup hmem)

theorem getElem?_callersAfter_of_not_mem (hcutoff : cutoffs[i]? = some c)
    (h : i ∉ order.map (·.1)) : (callersAfter s cutoffs order)[i]? = some (.waiting c) := by
  rw [callersAfter, List.getElem?_mapIdx, hcutoff, Option.map_some,
    lookup_inTurn_eq_none_iff.2 h]

/-- Between turns, a caller has been served or it waits. -/
theorem getElem?_callersAfter_cases (s : σ) (cutoffs : List Int64) (order : List (Nat × Int64))
    (i : Nat) :
    (callersAfter s cutoffs order)[i]? = none ∨
    (∃ result, (callersAfter s cutoffs order)[i]? = some (.served result) ∧
      (i, result) ∈ (inTurn order s).1) ∨
    ∃ c, (callersAfter s cutoffs order)[i]? = some (.waiting c) ∧ cutoffs[i]? = some c ∧
      i ∉ order.map (·.1) := by
  rcases hcutoff : cutoffs[i]? with _ | c
  · refine .inl ?_
    rw [callersAfter, List.getElem?_mapIdx, hcutoff, Option.map_none]
  · rcases hlookup : (inTurn order s).1.lookup i with _ | result
    · have hmem := lookup_inTurn_eq_none_iff.1 hlookup
      exact .inr (.inr ⟨c, getElem?_callersAfter_of_not_mem hcutoff hmem, rfl, hmem⟩)
    · exact .inr (.inl ⟨result, getElem?_callersAfter_of_lookup hcutoff hlookup,
        mem_of_lookup_inTurn hlookup⟩)

theorem served_or_waiting (hphase : (callersAfter s cutoffs order)[i]? = some phase) :
    (∃ result, phase = .served result ∧ (i, result) ∈ (inTurn order s).1) ∨
      ∃ c, phase = .waiting c := by
  rcases getElem?_callersAfter_cases s cutoffs order i with h | ⟨result, h, hmem⟩ | ⟨c, h, -⟩
  · cases hphase.symm.trans h
  · exact .inl ⟨result, Option.some.inj (hphase.symm.trans h), hmem⟩
  · exact .inr ⟨c, Option.some.inj (hphase.symm.trans h)⟩

/-- Between the two parts of a purge nothing else happens to the store. -/
theorem run_purge_of_beginPurge {purging : SnapshotStore.Purging σ}
    (h : (SnapshotStore.beginPurge c : StateM σ _) s = (purging, s')) :
    (SnapshotStore.purge c).run s = (SnapshotStore.endPurge purging).run s' := by
  have hpurge : (SnapshotStore.purge c).run s =
      (SnapshotStore.endPurge ((SnapshotStore.beginPurge c : StateM σ _) s).1).run
        ((SnapshotStore.beginPurge c : StateM σ _) s).2 := rfl
  rw [hpurge, h]

/-- Serving one more caller changes the phase of that one. -/
theorem callersAfter_concat (hcutoff : cutoffs[i]? = some c) (hnew : i ∉ order.map (·.1))
    (h : (SnapshotStore.purge c).run (inTurn order s).2 = (result, s')) :
    callersAfter s cutoffs (order ++ [(i, c)]) =
      (callersAfter s cutoffs order).set i (.served result) := by
  refine List.ext_getElem? fun j => ?_
  simp only [callersAfter, inTurn_concat h, List.getElem?_mapIdx, List.getElem?_set,
    List.length_mapIdx, List.lookup_append]
  by_cases hij : i = j
  · subst hij
    have hlookup : (inTurn order s).1.lookup i = none := lookup_inTurn_eq_none_iff.2 hnew
    have hlt : i < cutoffs.length := (List.getElem?_eq_some_iff.1 hcutoff).1
    rw [hcutoff, Option.map_some, hlookup, Option.none_or, List.lookup_cons_self,
      if_pos rfl, if_pos hlt]
  · have hother : [(i, result)].lookup j = none :=
      List.lookup_eq_none_iff.2 (by simp [Ne.symm hij])
    rw [if_neg hij, hother]
    simp only [Option.or_none]

/-- The phase of the caller that is having its turn. -/
theorem getElem?_set_callersAfter (s : σ) (order : List (Nat × Int64)) (phase : Phase σ)
    (hcutoff : cutoffs[i]? = some c) :
    ((callersAfter s cutoffs order).set i phase)[i]? = some phase :=
  List.getElem?_set_self (by
    rw [length_callersAfter]
    exact (List.getElem?_eq_some_iff.1 hcutoff).1)

theorem Stage.stay (h : Stage s cutoffs order t) (hmove : t.move? j = none) :
    Stage s cutoffs (order ++ (t.admits? j).toList) ((t.move? j).getD t) := by
  rw [admits?_of_move?_eq_none hmove, hmove, Option.toList_none, List.append_nil]
  exact h

theorem Holding.hasLock (h : Holding c s phase s') : phase.hasLock = true := by
  cases h <;> rfl

/-- A move leads to a stage. If a caller takes the lock with it, that caller comes last in
    the order. -/
theorem Stage.move (h : Stage s cutoffs order t) (j : Nat) :
    Stage s cutoffs (order ++ (t.admits? j).toList) ((t.move? j).getD t) := by
  have hstage := h
  cases h with
  | idle horderly =>
    rcases getElem?_callersAfter_cases s cutoffs order j with h | ⟨result, h, -⟩ | ⟨c, h, hc, hnew⟩
    · exact hstage.stay (move?_of_none h)
    · exact hstage.stay (move?_of_served h)
    · rw [move?_of_waiting h rfl, admits?_of_waiting h rfl]
      exact .busy horderly hc hnew .admitted
  | @busy order i c phase s' horderly hc hnew hholding =>
    by_cases hij : i = j
    · subst hij
      have hphase := getElem?_set_callersAfter s order phase hc
      rw [admits?_of_hasLock hphase hholding.hasLock, Option.toList_none, List.append_nil]
      cases hholding with
      | admitted =>
        rw [move?_of_admitted hphase rfl, Option.getD_some, List.set_set]
        exact .busy horderly hc hnew (.inside rfl)
      | inside hbegin =>
        rw [move?_of_inside hphase rfl, Option.getD_some, List.set_set]
        exact .busy horderly hc hnew (.leaving (run_purge_of_beginPurge hbegin))
      | leaving hpurge =>
        -- With the lock given back, this turn is one of those that are over.
        rw [move?_of_leaving hphase, Option.getD_some, List.set_set,
          ← callersAfter_concat hc hnew hpurge]
        have hidle := Stage.idle (s := s) (horderly.concat hc hnew)
        rwa [inTurn_concat hpurge] at hidle
    · -- The lock is taken, and everybody else waits in vain or has been served.
      have hphase : ((callersAfter s cutoffs order).set i phase)[j]? =
        (callersAfter s cutoffs order)[j]? := List.getElem?_set_ne hij
      rcases getElem?_callersAfter_cases s cutoffs order j with h | ⟨result, h, -⟩ | ⟨c, h, -⟩
      · exact hstage.stay (move?_of_none (hphase.trans h))
      · exact hstage.stay (move?_of_served (hphase.trans h))
      · exact hstage.stay (move?_of_waiting_in_vain (hphase.trans h) rfl)

/-- Callers that all wait are at the first stage. -/
theorem Stage.start (s : σ) (cutoffs : List Int64) : Stage s cutoffs [] (start s cutoffs) := by
  have hcallers : callersAfter s cutoffs [] = cutoffs.map .waiting := by
    refine List.ext_getElem? fun i => ?_
    rw [callersAfter, List.getElem?_mapIdx, List.getElem?_map]
    rfl
  rw [Turns.start, ← hcallers]
  exact .idle (.nil cutoffs)

theorem Stage.after (h : Stage s cutoffs order t) (schedule : List Nat) :
    Stage s cutoffs (order ++ t.admissions schedule) (t.after schedule) := by
  induction schedule generalizing t order with
  | nil =>
    rw [Turns.admissions, List.append_nil]
    exact h
  | cons j schedule ih =>
    rw [Turns.admissions, ← List.append_assoc]
    exact ih (h.move j)

theorem Stage.follow (h : Stage s cutoffs order t) {schedule : List Nat} {t' : Turns σ}
    (ht' : t' ∈ t.follow schedule) : ∃ order', Stage s cutoffs order' t' := by
  induction schedule generalizing t order with
  | nil =>
    rw [Turns.follow, List.mem_singleton] at ht'
    exact ⟨order, ht' ▸ h⟩
  | cons j schedule ih =>
    rw [Turns.follow, List.mem_cons] at ht'
    rcases ht' with rfl | ht'
    · exact ⟨order, h⟩
    · exact ih (h.move j) ht'

/-! ### What every stage says -/

theorem countP_isInside_callersAfter (s : σ) (cutoffs : List Int64)
    (order : List (Nat × Int64)) : (callersAfter s cutoffs order).countP Phase.isInside = 0 := by
  refine List.countP_eq_zero.2 fun phase hphase => ?_
  obtain ⟨i, hi⟩ := List.mem_iff_getElem?.1 hphase
  rcases served_or_waiting hi with ⟨result, rfl, -⟩ | ⟨c, rfl⟩
  · exact Bool.false_ne_true
  · exact Bool.false_ne_true

/-- At most one caller is inside the store. -/
theorem Stage.active_le_one (h : Stage s cutoffs order t) : t.active ≤ 1 := by
  cases h with
  | idle horderly =>
    rw [active, countP_isInside_callersAfter]
    exact Nat.zero_le 1
  | @busy order i c phase s' horderly hc hnew hholding =>
    have hlt : i < (callersAfter s cutoffs order).length := by
      rw [length_callersAfter]
      exact (List.getElem?_eq_some_iff.1 hc).1
    rw [active, List.countP_set hlt, countP_isInside_callersAfter, Nat.zero_sub, Nat.zero_add]
    split
    · exact Nat.le_refl 1
    · exact Nat.zero_le 1

theorem Stage.orderly (h : Stage s cutoffs order t) : Orderly cutoffs order := by
  cases h with
  | idle horderly => exact horderly
  | busy horderly hc hnew hholding => exact horderly.concat hc hnew

/-- If nobody has the lock, the callers in the order have had their turn. -/
theorem Stage.eq_of_isFree (h : Stage s cutoffs order t) (hfree : t.isFree = true) :
    t = ⟨(inTurn order s).2, true, callersAfter s cutoffs order⟩ := by
  cases h with
  | idle horderly => rfl
  | busy horderly hc hnew hholding => cases hfree

/-- If nobody has the lock, a caller that has not been served waits. -/
theorem Stage.waiting_of_isFree (h : Stage s cutoffs order t) (hfree : t.isFree = true)
    (hphase : t.callers[j]? = some phase) (hresult : ¬phase.result?.isSome) :
    ∃ c, phase = .waiting c := by
  rw [h.eq_of_isFree hfree] at hphase
  rcases served_or_waiting hphase with ⟨result, rfl, -⟩ | hwaiting
  · exact absurd rfl hresult
  · exact hwaiting

/-- If somebody has the lock, it is the caller that took it last. -/
theorem Stage.exists_hasLock (h : Stage s cutoffs order t) (hfree : t.isFree = false) :
    ∃ (i : Nat) (phase : Phase σ), t.callers[i]? = some phase ∧ phase.hasLock = true := by
  cases h with
  | idle horderly => cases hfree
  | busy horderly hc hnew hholding =>
    exact ⟨_, _, getElem?_set_callersAfter _ _ _ hc, hholding.hasLock⟩

/-- The result of a caller that has been served is that of its turn. -/
theorem Stage.mem_inTurn (h : Stage s cutoffs order t)
    (hserved : t.callers[j]? = some (.served result)) : (j, result) ∈ (inTurn order s).1 := by
  have hbetween : ∀ order : List (Nat × Int64),
      (callersAfter s cutoffs order)[j]? = some (.served result) →
        (j, result) ∈ (inTurn order s).1 := by
    intro order hserved
    rcases served_or_waiting hserved with ⟨other, heq, hmem⟩ | ⟨c, heq⟩
    · cases heq
      exact hmem
    · cases heq
  cases h with
  | idle horderly => exact hbetween _ hserved
  | @busy order i c phase s' horderly hc hnew hholding =>
    rw [inTurn_concat rfl]
    refine List.mem_append_left _ (hbetween order ?_)
    by_cases hij : i = j
    · -- The caller that is having its turn has not been served.
      subst hij
      have hphase := (getElem?_set_callersAfter s order phase hc).symm.trans hserved
      cases hphase
      cases hholding
    · exact (List.getElem?_set_ne hij).symm.trans hserved

/-- Once all callers have been served, each of them has had one turn. -/
theorem Stage.perm_range (h : Stage s cutoffs order t)
    (hserved : ∀ phase ∈ t.callers, phase.result?.isSome) :
    t.isFree = true ∧ (order.map (·.1)).Perm (List.range cutoffs.length) := by
  have hfree : t.isFree = true := by
    by_contra hfree
    obtain ⟨i, phase, hphase, hlock⟩ := h.exists_hasLock (eq_false_of_ne_true hfree)
    have hresult := hserved phase (List.mem_of_getElem? hphase)
    cases phase with
    | served result => cases hlock
    | _ => cases hresult
  refine ⟨hfree, (List.perm_ext_iff_of_nodup h.orderly.nodup List.nodup_range).2 fun i => ?_⟩
  rw [List.mem_range]
  constructor
  · intro hi
    obtain ⟨e, he, rfl⟩ := List.mem_map.1 hi
    exact (List.getElem?_eq_some_iff.1 (h.orderly.cutoff e he)).1
  · intro hi
    by_contra hnew
    have hwaiting := getElem?_callersAfter_of_not_mem (s := s) (List.getElem?_eq_getElem hi) hnew
    rw [h.eq_of_isFree hfree] at hserved
    cases hserved _ (List.mem_of_getElem? hwaiting)

end Stages

/-! ### The lock comes back -/

section Progress

variable {t t' : Turns σ} {s : σ} {cutoffs : List Int64} {order : List (Nat × Int64)}
  {i j n : Nat} {c : Int64} {phase : Phase σ}

theorem after_append (t : Turns σ) (moves later : List Nat) :
    t.after (moves ++ later) = (t.after moves).after later := List.foldl_append

theorem after_cons_of_move? (h : t.move? i = some t') (moves : List Nat) :
    t.after (i :: moves) = t'.after moves := by
  rw [after, List.foldl_cons, h]
  rfl

/-- So many moves of a caller give the lock back, and leave the other callers where they are. -/
def GivesBack (t : Turns σ) (i n : Nat) : Prop :=
  (t.after (.replicate n i)).isFree = true ∧
    ∀ j, j ≠ i → (t.after (.replicate n i)).callers[j]? = t.callers[j]?

theorem GivesBack.move (hmove : t.move? i = some t')
    (hcallers : t'.callers = t.callers.set i phase) (h : t'.GivesBack i n) :
    t.GivesBack i (n + 1) := by
  rw [GivesBack, List.replicate_succ, after_cons_of_move? hmove]
  refine ⟨h.1, fun j hj => ?_⟩
  rw [h.2 j hj, hcallers, List.getElem?_set_ne (Ne.symm hj)]

/-- Whatever the store answers, and whether the purge succeeds or not, a caller that has
    the lock gives it back with its third move at the latest. -/
theorem exists_givesBack (h : t.callers[i]? = some phase) (hlock : phase.hasLock = true) :
    ∃ n ≤ 3, t.GivesBack i n := by
  have hlt : i < t.callers.length := (List.getElem?_eq_some_iff.1 h).1
  have hleaving : ∀ (t : Turns σ) result, t.callers[i]? = some (.leaving result) →
      t.GivesBack i 1 := fun t result h =>
    GivesBack.move (move?_of_leaving h) rfl ⟨rfl, fun _ _ => rfl⟩
  have hinside : ∀ (t : Turns σ) purging, t.callers[i]? = some (.inside purging) →
      i < t.callers.length → t.GivesBack i 2 := fun t purging h hlt =>
    GivesBack.move (move?_of_inside h rfl) rfl (hleaving _ _ (List.getElem?_set_self hlt))
  cases phase with
  | admitted c =>
    refine ⟨3, Nat.le_refl 3, GivesBack.move (move?_of_admitted h rfl) rfl ?_⟩
    exact hinside _ _ (List.getElem?_set_self hlt) (by rwa [List.length_set])
  | inside purging => exact ⟨2, by decide, hinside t purging h hlt⟩
  | leaving result => exact ⟨1, by decide, hleaving t result h⟩
  | waiting c => cases hlock
  | served result => cases hlock

/-- Within three moves of the caller that has it the lock is free, and who waits still waits. -/
theorem Stage.exists_isFree (h : Stage s cutoffs order t) :
    ∃ moves, moves.length ≤ 3 ∧ (t.after moves).isFree = true ∧
      ∀ j c, t.callers[j]? = some (.waiting c) →
        j ∉ moves ∧ (t.after moves).callers[j]? = some (.waiting c) := by
  rcases hfree : t.isFree with _ | _
  · obtain ⟨i, phase, hphase, hlock⟩ := h.exists_hasLock hfree
    obtain ⟨n, hn, hgives, hothers⟩ := exists_givesBack hphase hlock
    refine ⟨.replicate n i, by rwa [List.length_replicate], hgives, fun j c hwaiting => ?_⟩
    have hji : j ≠ i := by
      rintro rfl
      rw [hphase] at hwaiting
      cases hwaiting
      cases hlock
    exact ⟨fun hmem => hji (List.eq_of_mem_replicate hmem), (hothers j hji).trans hwaiting⟩
  · exact ⟨[], Nat.zero_le 3, hfree, fun j c hwaiting => ⟨List.not_mem_nil, hwaiting⟩⟩

theorem Orderly.length_le (h : Orderly cutoffs order) : order.length ≤ cutoffs.length := by
  have hsubset : order.map (·.1) ⊆ List.range cutoffs.length := by
    intro i hi
    obtain ⟨e, he, rfl⟩ := List.mem_map.1 hi
    exact List.mem_range.2 (List.getElem?_eq_some_iff.1 (h.cutoff e he)).1
  have hlength := h.nodup.length_le_of_subset hsubset
  rwa [List.length_map, List.length_range] at hlength

/-- Whatever has been done so far, all callers can still be served. -/
theorem Stage.exists_all_served (h : Stage s cutoffs order t) :
    ∃ rest, ∀ phase ∈ (t.after rest).callers, phase.result?.isSome := by
  -- Every caller that takes the lock leaves fewer to do so.
  induction hleft : cutoffs.length - order.length using Nat.strongRecOn generalizing order t with
  | ind left ih =>
    obtain ⟨moves, -, hfree, -⟩ := h.exists_isFree
    have hstage := h.after moves
    by_cases hserved : ∀ phase ∈ (t.after moves).callers, phase.result?.isSome
    · exact ⟨moves, hserved⟩
    · simp only [not_forall] at hserved
      obtain ⟨phase, hphase, hresult⟩ := hserved
      obtain ⟨j, hj⟩ := List.mem_iff_getElem?.1 hphase
      obtain ⟨c, rfl⟩ := hstage.waiting_of_isFree hfree hj hresult
      have hnext := hstage.move j
      rw [admits?_of_waiting hj hfree, Option.toList_some] at hnext
      have hlength := hnext.orderly.length_le
      rw [List.length_append, List.length_append, List.length_singleton] at hlength
      have hless : cutoffs.length - (order ++ t.admissions moves ++ [(j, c)]).length < left := by
        rw [List.length_append, List.length_append, List.length_singleton]
        omega
      obtain ⟨rest, hrest⟩ := ih _ hless hnext rfl
      exact ⟨moves ++ j :: rest, by rwa [after_append]⟩

/-- The states of a schedule end with the one after it. -/
theorem getLast?_follow (t : Turns σ) (schedule : List Nat) :
    (t.follow schedule).getLast? = some (t.after schedule) := by
  induction schedule generalizing t with
  | nil => rfl
  | cons j schedule ih =>
    rw [follow, List.getLast?_cons, ih]
    rfl

end Progress

/-- Whatever the schedule, and whatever the store answers, at most one purge is inside the
    store at any time. The callers take the lock once each. Those that have been served
    have the results of purges which are made one after the other in that order, and
    when nobody has the lock the store is what these purges leave. Whoever waits gets
    the lock after at most three moves of the caller that has it, also when a purge
    fails, and all callers can still be served. -/
theorem serializable (s : σ) (cutoffs : List Int64) (schedule : List Nat) :
    ∃ t order, ((start s cutoffs).follow schedule).getLast? = some t ∧
    (start s cutoffs).admissions schedule = order ∧
    (∀ t' ∈ (start s cutoffs).follow schedule, t'.active ≤ 1) ∧
    Orderly cutoffs order ∧
    (∀ i result, t.callers[i]? = some (.served result) → (i, result) ∈ (inTurn order s).1) ∧
    (t.isFree = true → t.store = (inTurn order s).2 ∧
      ∀ i result, (i, result) ∈ (inTurn order s).1 → t.callers[i]? = some (.served result)) ∧
    ((∀ phase ∈ t.callers, phase.result?.isSome) →
      t.isFree = true ∧ (order.map (·.1)).Perm (List.range cutoffs.length)) ∧
    (∀ i c, t.callers[i]? = some (.waiting c) →
      ∃ moves, moves.length ≤ 3 ∧ i ∉ moves ∧ (t.after moves).admits? i = some (i, c)) ∧
    ∃ rest, ∀ phase ∈ (t.after rest).callers, phase.result?.isSome := by
  have hstart := Stage.start s cutoffs
  have hstage := hstart.after schedule
  rw [List.nil_append] at hstage
  refine ⟨_, _, getLast?_follow _ schedule, rfl, fun t' ht' => ?_, hstage.orderly,
    fun i result hserved => hstage.mem_inTurn hserved, fun hfree => ?_, hstage.perm_range,
    fun i c hwaiting => ?_, hstage.exists_all_served⟩
  · obtain ⟨order', hstage'⟩ := hstart.follow ht'
    exact hstage'.active_le_one
  · rw [hstage.eq_of_isFree hfree]
    exact ⟨rfl, fun i result hmem => getElem?_callersAfter_of_mem hstage.orderly hmem⟩
  · obtain ⟨moves, hlength, hfree, hkept⟩ := hstage.exists_isFree
    obtain ⟨hmem, hstill⟩ := hkept i c hwaiting
    exact ⟨moves, hlength, hmem, admits?_of_waiting hstill hfree⟩

/-- The second of two callers takes the lock first, and its purge fails while the first
    caller waits. -/
theorem serializable_after_failure :
    let script : Script := { purges := [.error "locked", .ok ⟨3, 1⟩] }
    let t := (start script [10, 20]).after [1, 0, 1, 0, 1, 0, 1, 0, 0, 0, 0]
    (∀ phase ∈ t.callers, phase.result?.isSome) ∧ t.isFree = true ∧
      t.store = (inTurn [(1, 20), (0, 10)] script).2 ∧
      t.callers[1]? = some (.served (.error (.unavailable "locked"))) ∧
      t.callers[0]? = some (.served (.ok ⟨3, 1⟩)) ∧
      ∃ moves, moves.length ≤ 3 ∧ 0 ∉ moves ∧
        (((start script [10, 20]).after [1, 0, 1, 0]).after moves).admits? 0 = some (0, 10) := by
  intro script t
  have hserved : ∀ phase ∈ t.callers, phase.result?.isSome := by
    have hall : t.callers.all (·.result?.isSome) = true := by decide +kernel
    exact List.all_eq_true.1 hall
  have horder : (start script [10, 20]).admissions [1, 0, 1, 0, 1, 0, 1, 0, 0, 0, 0] =
      [(1, 20), (0, 10)] := by decide +kernel
  have hresults : (inTurn [(1, 20), (0, 10)] script).1 =
      [(1, .error (.unavailable "locked")), (0, .ok ⟨3, 1⟩)] := by decide +kernel
  have hwaiting : ((start script [10, 20]).after [1, 0, 1, 0]).callers[0]? = some (.waiting 10) :=
    rfl
  obtain ⟨_, _, hlast, rfl, -, -, -, hidle, hall, -⟩ :=
    serializable script [10, 20] [1, 0, 1, 0, 1, 0, 1, 0, 0, 0, 0]
  obtain rfl := Option.some.inj ((getLast?_follow _ _).symm.trans hlast)
  obtain ⟨hfree, -⟩ := hall hserved
  obtain ⟨hstore, hturns⟩ := hidle hfree
  rw [horder] at hstore hturns
  rw [hresults] at hturns
  obtain ⟨_, _, hlast', -, -, -, -, -, -, hwaits, -⟩ := serializable script [10, 20] [1, 0, 1, 0]
  obtain rfl := Option.some.inj ((getLast?_follow _ _).symm.trans hlast')
  exact ⟨hserved, hfree, hstore, hturns 1 _ List.mem_cons_self,
    hturns 0 _ (List.mem_cons_of_mem _ List.mem_cons_self), hwaits 0 10 hwaiting⟩

end Metering.Turns
