import Metering.Store

/-!
# Purges in turn

Several callers may ask for a purge at once. A lock lets one of them at a time
into the store: a caller waits for it, begins its purge, ends it, and gives the
lock back, whether the purge succeeded or not. Which caller moves next is open.

* `Phase`: how far a caller has come;
* `Turns`: the store, the lock and the callers, and `Turns.move?`, one move of one caller;
* `Turns.follow`: the moves of a schedule; a caller that cannot move is passed over.
-/

namespace Metering

variable {σ : Type} [SnapshotStore σ]

/-- How far a caller has come with its purge. -/
inductive Phase (σ : Type) [SnapshotStore σ] where
  /-- It waits for the lock. -/
  | waiting (cutoffMs : Int64)
  /-- It has the lock, and is about to begin. -/
  | admitted (cutoffMs : Int64)
  /-- Its purge has begun in the store. -/
  | inside (purging : SnapshotStore.Purging σ)
  /-- Its purge is over; it still has the lock. -/
  | leaving (result : Except StoreError PurgeCounts)
  /-- It has given the lock back, and has its result. -/
  | served (result : Except StoreError PurgeCounts)

namespace Phase

/-- The caller has the lock. -/
def hasLock : Phase σ → Bool
  | admitted _ | inside _ | leaving _ => true
  | waiting _ | served _ => false

/-- The caller's purge is under way in the store. -/
def isInside : Phase σ → Bool
  | inside _ => true
  | _ => false

/-- The result of a caller that has been served. -/
def result? : Phase σ → Option (Except StoreError PurgeCounts)
  | served result => some result
  | _ => none

end Phase

/-- A store and the callers that want to purge it. -/
structure Turns (σ : Type) [SnapshotStore σ] where
  /-- The store. -/
  store : σ
  /-- Nobody has the lock. -/
  isFree : Bool := true
  /-- The callers. -/
  callers : List (Phase σ)

namespace Turns

/-- Callers that all wait, one for each instant to purge before. -/
def start (store : σ) (cutoffs : List Int64) : Turns σ :=
  { store, callers := cutoffs.map .waiting }

/-- The next move of a caller, unless it waits in vain or has been served. -/
def move? (t : Turns σ) (caller : Nat) : Option (Turns σ) :=
  match t.callers[caller]? with
  | some (.waiting cutoffMs) =>
    if t.isFree then
      some { t with isFree := false, callers := t.callers.set caller (.admitted cutoffMs) }
    else none
  | some (.admitted cutoffMs) =>
    let (purging, store) := (SnapshotStore.beginPurge cutoffMs : StateM σ _) t.store
    some { t with store, callers := t.callers.set caller (.inside purging) }
  | some (.inside purging) =>
    let (result, store) := (SnapshotStore.endPurge purging).run t.store
    some { t with store, callers := t.callers.set caller (.leaving result) }
  | some (.leaving result) =>
    some { t with isFree := true, callers := t.callers.set caller (.served result) }
  | some (.served _) => none
  | none => none

/-- The states that a schedule leads through. A caller that cannot move is passed over. -/
def follow (t : Turns σ) : List Nat → List (Turns σ)
  | [] => [t]
  | caller :: rest => t :: ((t.move? caller).getD t).follow rest

/-- A schedule in which callers move one after the other, often enough for each
    to be served after those before it: every round serves the lock's holder a
    move, and a purge takes four. -/
def roundRobin (callers : Nat) : List Nat :=
  (List.replicate (4 * callers) (List.range callers)).flatten

/-- The number of purges that are under way in the store. -/
def active (t : Turns σ) : Nat := t.callers.countP Phase.isInside

end Turns

end Metering
