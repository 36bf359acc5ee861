import Metering.Reporting

/-!
# Running what asks a store

A computation on a store is run from a store to its outcome and the store that
it leaves. These are the steps by which the runs of composed computations are
taken apart: a part that succeeds passes its value and its store on, and one
that fails is the last.

* `Reads`: computations that leave every store as it was.
-/

namespace Metering

variable {σ : Type}

section Parts

variable {ε α β : Type} {x : ExceptT ε (StateM σ) α} {f : α → ExceptT ε (StateM σ) β}
  {s s' : σ}

/-- A run that fails does not succeed. -/
theorem ne_ok_of_error {outcome : Except ε α × σ} {e : ε} {a : α}
    (h : outcome = (.error e, s)) : outcome ≠ (.ok a, s') := by
  intro h'
  rw [h] at h'
  cases h'

theorem run_pure (a : α) : (pure a : ExceptT ε (StateM σ) α).run s = (.ok a, s) := rfl

theorem run_bind_of_ok {a : α} (h : x.run s = (.ok a, s')) : (x >>= f).run s = (f a).run s' := by
  have hbind : (x >>= f).run s = ExceptT.bindCont f (x.run s).1 (x.run s).2 := rfl
  rw [hbind, h]
  rfl

theorem run_bind_of_error {e : ε} (h : x.run s = (.error e, s')) :
    (x >>= f).run s = (.error e, s') := by
  have hbind : (x >>= f).run s = ExceptT.bindCont f (x.run s).1 (x.run s).2 := rfl
  rw [hbind, h]
  rfl

theorem run_mapM_nil {g : α → ExceptT ε (StateM σ) β} :
    ([].mapM g : ExceptT ε (StateM σ) (List β)).run s = (.ok [], s) := rfl

theorem run_mapM_cons_of_ok {g : α → ExceptT ε (StateM σ) β} {a : α} {as : List α} {b : β}
    {bs : List β} {s'' : σ} (h : (g a).run s = (.ok b, s'))
    (h' : (as.mapM g).run s' = (.ok bs, s'')) :
    ((a :: as).mapM g).run s = (.ok (b :: bs), s'') := by
  rw [List.mapM_cons, run_bind_of_ok h, run_bind_of_ok h', run_pure]

theorem run_forM_cons_of_ok {g : α → ExceptT ε (StateM σ) PUnit} {a : α} {as : List α}
    (h : (g a).run s = (.ok ⟨⟩, s')) : ((a :: as).forM g).run s = (as.forM g).run s' :=
  run_bind_of_ok h

theorem run_forM_cons_of_error {g : α → ExceptT ε (StateM σ) PUnit} {a : α} {as : List α} {e : ε}
    (h : (g a).run s = (.error e, s')) : ((a :: as).forM g).run s = (.error e, s') :=
  run_bind_of_error h

end Parts

/-! ### What becomes of the store -/

section Kept

variable {ε α : Type} {x : ExceptT ε (StateM σ) α}

/-- The computation leaves every store as it was, whatever its outcome. -/
def Reads (x : ExceptT ε (StateM σ) α) : Prop := ∀ s, (x.run s).2 = s

theorem Reads.eq (h : Reads x) {s s' : σ} {outcome : Except ε α} (hrun : x.run s = (outcome, s')) :
    s' = s := by
  rw [← h s, hrun]

end Kept

namespace Reporting

variable {α : Type} {x : Asking σ α} {s s' : σ}

theorem run_serve_of_ok {a : α} (h : x.run s = (.ok a, s')) :
    (serve x).run s = (.ok a, s') := by
  have hserve : (serve x).run s = ((x.run s).1.mapError .store, (x.run s).2) := rfl
  rw [hserve, h]
  rfl

theorem run_serve_of_error {e : StoreError} (h : x.run s = (.error e, s')) :
    (serve x).run s = (.error (.store e), s') := by
  have hserve : (serve x).run s = ((x.run s).1.mapError .store, (x.run s).2) := rfl
  rw [hserve, h]
  rfl

theorem exists_of_run_serve {e : ReportError} (h : (serve x).run s = (.error e, s')) :
    ∃ cause, x.run s = (.error cause, s') ∧ e = .store cause := by
  have hserve : (serve x).run s = ((x.run s).1.mapError .store, (x.run s).2) := rfl
  rw [hserve] at h
  cases hrun : x.run s with | mk outcome t =>
  rw [hrun] at h
  cases outcome with
  | ok a => cases h
  | error cause =>
    cases h
    exact ⟨cause, rfl, rfl⟩

end Reporting

end Metering
