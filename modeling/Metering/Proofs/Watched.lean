import Metering.Proofs.Asking
import Metering.Store.Script

/-!
# Watched stores

A store of any kind can be watched: what it is asked goes on record, and its
answers are those of the store inside. Statements about which questions are put
to a store, and in which order, are statements about the record.

* `Watched.ask`: a question that is put to the store inside and on record;
* `Watched.Records`: what a computation asks, shown for a composed one through
  its parts;
* `records_latestIn`, `records_rowsIn`: the questions that read.
-/

namespace Metering

/-- A store, and the questions that it was asked. -/
structure Watched (σ : Type) where
  /-- The store that answers. -/
  store : σ
  /-- The questions so far. -/
  calls : List Call := []

namespace Watched

variable {σ : Type}

/-- Puts a question on record, and the store's answer through. -/
def ask {α : Type} (call : Call) (x : StateM σ α) : StateM (Watched σ) α := fun watched =>
  let (answer, store) := x watched.store
  (answer, { store, calls := watched.calls ++ [call] })

/-! ### Computations on record -/

section Records

variable {ε α β : Type} {x : ExceptT ε (StateM σ) α} {y : ExceptT ε (StateM (Watched σ)) α}
  {f : α → ExceptT ε (StateM σ) β} {g : α → ExceptT ε (StateM (Watched σ)) β}
  {asked : σ → List Call}

/-- On a watched store, `y` does what `x` does on the store inside, and it puts the
    questions `asked` on record. -/
def Records (x : ExceptT ε (StateM σ) α) (y : ExceptT ε (StateM (Watched σ)) α)
    (asked : σ → List Call) : Prop :=
  ∀ s calls, y.run ⟨s, calls⟩ = ((x.run s).1, ⟨(x.run s).2, calls ++ asked s⟩)

/-- What the second part of a computation asks: nothing, if the first part has failed. -/
def askedThen (b : α → σ → List Call) : Except ε α × σ → List Call
  | (.ok v, s) => b v s
  | (.error _, _) => []

@[simp]
theorem askedThen_nil (r : Except ε α × σ) : askedThen (fun _ _ => []) r = [] := by
  rcases r with ⟨_ | _, _⟩ <;> rfl

theorem records_pure (a : α) :
    Records (pure a : ExceptT ε (StateM σ) α) (pure a) fun _ => [] := by
  intro s calls
  rw [List.append_nil]
  rfl

/-- What the second part asks goes on record after what the first part has asked. -/
theorem Records.bind {b : α → σ → List Call} (hx : Records x y asked)
    (hf : ∀ v, Records (f v) (g v) (b v)) :
    Records (x >>= f) (y >>= g) fun s => asked s ++ askedThen b (x.run s) := by
  intro s calls
  have hy := hx s calls
  rcases hrun : x.run s with ⟨e | v, s'⟩
  · rw [hrun] at hy
    simp only [run_bind_of_error hy, run_bind_of_error hrun, hrun, askedThen, List.append_nil]
  · rw [hrun] at hy
    simp only [run_bind_of_ok hy, run_bind_of_ok hrun, hf v s', hrun, askedThen,
      List.append_assoc]

theorem Records.serve {x : Asking σ α} {y : Asking (Watched σ) α} (h : Records x y asked) :
    Records (Reporting.serve x) (Reporting.serve y) asked := by
  intro s calls
  have hserve : (Reporting.serve y).run ⟨s, calls⟩ =
      ((y.run ⟨s, calls⟩).1.mapError .store, (y.run ⟨s, calls⟩).2) := rfl
  rw [hserve, h]
  rfl

end Records

/-! ### A watched store is a store -/

variable [SnapshotStore σ]

instance : SnapshotStore (Watched σ) where
  rowsIn w := ask (.rowsIn w) (SnapshotStore.rowsIn w).run
  latestIn w := ask (.latestIn w) (SnapshotStore.latestIn w).run
  Purging := SnapshotStore.Purging σ
  beginPurge cutoffMs := ask (.purge cutoffMs) (SnapshotStore.beginPurge cutoffMs)
  endPurge purging := fun watched =>
    let (answer, store) := (SnapshotStore.endPurge purging).run watched.store
    (answer, { watched with store })
  compact := ask .compact (SnapshotStore.compact : Asking σ Unit).run

theorem records_latestIn (w : Window) :
    Records (σ := σ) (SnapshotStore.latestIn w) (SnapshotStore.latestIn w)
      fun _ => [.latestIn w] := fun _ _ => rfl

theorem records_rowsIn (w : Window) :
    Records (σ := σ) (SnapshotStore.rowsIn w) (SnapshotStore.rowsIn w)
      fun _ => [.rowsIn w] := fun _ _ => rfl

end Watched

end Metering
