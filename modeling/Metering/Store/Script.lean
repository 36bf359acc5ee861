import Metering.Store

/-!
# A scripted store

A store without data that plays given answers, in order, and keeps a record of
what it was asked. When the answers run out it has nothing: no instant, no
rows, nothing to purge.
-/

namespace Metering

/-- A question that a store was asked. -/
inductive Call where
  /-- For the latest instant in a window. -/
  | latestIn (window : Window)
  /-- For the rows of a window. -/
  | rowsIn (window : Window)
  /-- To purge what is before an instant. -/
  | purge (cutoffMs : Int64)
  /-- To give back space. -/
  | compact
deriving Repr, DecidableEq

/-- An answer in a script, or the reason why there is none. -/
abbrev Scripted (α : Type) := Except String α

/-- The answers that a store has still to give, and the questions it was asked. -/
structure Script where
  /-- Latest instants. -/
  latest : List (Scripted (Option Int64)) := []
  /-- Rows, given whatever the window. -/
  rows : List (Scripted (List Row)) := []
  /-- Counts of purges. -/
  purges : List (Scripted PurgeCounts) := []
  /-- Outcomes of compactions; without them a compaction goes unnoticed. -/
  compactions? : Option (List (Scripted Unit)) := none
  /-- The questions so far. -/
  calls : List Call := []

namespace Script

/-- Puts a question on record. -/
def record (call : Call) : StateM Script Unit :=
  modify fun script => { script with calls := script.calls ++ [call] }

/-- A scripted answer as the answer of a store. -/
def play {α : Type} : Scripted α → Asking Script α
  | .ok a => pure a
  | .error reason => throw (.unavailable reason)

/-- The next latest instant. -/
def latestIn (w : Window) : Asking Script (Option Int64) := do
  record (.latestIn w)
  match (← get).latest with
  | [] => pure none
  | a :: rest =>
    modify fun script => { script with latest := rest }
    play a

/-- The next rows. -/
def rowsIn (w : Window) : Asking Script (List Row) := do
  record (.rowsIn w)
  match (← get).rows with
  | [] => pure []
  | a :: rest =>
    modify fun script => { script with rows := rest }
    play a

/-- The next counts of a purge. -/
def endPurge : Asking Script PurgeCounts := do
  match (← get).purges with
  | [] => pure {}
  | a :: rest =>
    modify fun script => { script with purges := rest }
    play a

/-- The next outcome of a compaction, if compactions are scripted. -/
def compact : Asking Script Unit := do
  match (← get).compactions? with
  | none => pure ()
  | some outcomes =>
    record .compact
    match outcomes with
    | [] => pure ()
    | a :: rest =>
      modify fun script => { script with compactions? := some rest }
      play a

instance : SnapshotStore Script where
  rowsIn := rowsIn
  latestIn := latestIn
  Purging := Unit
  beginPurge cutoffMs := record (.purge cutoffMs)
  endPurge _ := endPurge
  compact := compact

end Script

end Metering
