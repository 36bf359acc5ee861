import Metering.Store

/-!
# A database of two tables

The store of a running service: a table of entities, with one row for each
identity, and a table of snapshots in the order in which they were saved. A
table may be missing, and a statement that needs it fails.

A database is reached over a connection, which may refuse any statement for
reasons that the tables do not show: another process has locked the database,
or its disk is full. A refused statement does nothing.

* `Connection`: what refuses statements, and how a database is reached;
* `statement`, `transaction`: one statement over a connection, and several of which
  all or none take effect;
* `init`, `saveEntities`, `saveSnapshots`, `counts`, `vacuum` and the instance of
  `SnapshotStore`: the operations. Those that write in several statements are
  transactions, but for `init`, whose statements stand for themselves.
-/

namespace Metering

/-- A database. A table that does not exist is `none`. -/
structure Tables where
  /-- The entities. -/
  entities? : Option (List Entity) := none
  /-- The snapshots, in the order of saving. -/
  snapshots? : Option (List Snapshot) := none
deriving Repr, DecidableEq

namespace Tables

/-- The rows of the table of entities. -/
def entities : Asking Tables (List Entity) := do
  match (← get).entities? with
  | some rows => pure rows
  | none => throw (.missingTable .entities)

/-- The rows of the table of snapshots. -/
def snapshots : Asking Tables (List Snapshot) := do
  match (← get).snapshots? with
  | some rows => pure rows
  | none => throw (.missingTable .snapshots)

/-- Creates a table, unless it is there. -/
def create (t : Table) : Asking Tables Unit :=
  match t with
  | .entities => modify fun db => { db with entities? := some (db.entities?.getD []) }
  | .snapshots => modify fun db => { db with snapshots? := some (db.snapshots?.getD []) }

/-- Creates an index of the snapshots. It needs their table, and no answer shows it. -/
def indexSnapshots : Asking Tables Unit := do
  let _ ← snapshots

/-- Removes a table with its rows. -/
def drop (t : Table) : Asking Tables Unit :=
  match t with
  | .entities => do
    let _ ← entities
    modify fun db => { db with entities? := none }
  | .snapshots => do
    let _ ← snapshots
    modify fun db => { db with snapshots? := none }

/-- Adds an entity. One whose identity is already there changes nothing. -/
def insertEntity (e : Entity) : Asking Tables Unit := do
  let rows ← entities
  if rows.any (·.identity = e.identity) then pure ()
  else modify fun db => { db with entities? := some (rows ++ [e]) }

/-- Adds a snapshot. -/
def insertSnapshot (s : Snapshot) : Asking Tables Unit := do
  let rows ← snapshots
  modify fun db => { db with snapshots? := some (rows ++ [s]) }

/-- The snapshots of a window that belong to known entities, in reading order. -/
def rowsIn (w : Window) : Asking Tables (List Row) := do
  let es ← entities
  let ss ← snapshots
  pure <| Row.sort <| es.flatMap fun e =>
    (ss.filter fun s => s.identity = e.identity ∧ w.Contains s.timestampMs).map (Row.mk e)

/-- The latest instant in a window at which there is a snapshot. -/
def latestIn (w : Window) : Asking Tables (Option Int64) := do
  let ss ← snapshots
  pure ((ss.map (·.timestampMs)).filter (w.Contains ·)).max?

/-- Removes the snapshots before an instant, and gives their number. -/
def deleteSnapshotsBefore (cutoffMs : Int64) : Asking Tables Nat := do
  let ss ← snapshots
  let kept := ss.filter fun s => cutoffMs ≤ s.timestampMs
  modify fun db => { db with snapshots? := some kept }
  pure (ss.length - kept.length)

/-- Removes the entities that have no snapshot, and gives their number. -/
def deleteOrphans : Asking Tables Nat := do
  let es ← entities
  let ss ← snapshots
  let kept := es.filter fun e => ss.any (·.identity = e.identity)
  modify fun db => { db with entities? := some kept }
  pure (es.length - kept.length)

end Tables

/-- The ways to reach a database. Each statement is accepted or refused first. -/
class Connection (σ : Type) where
  /-- The database that is reached. -/
  tables : σ → Tables
  /-- Puts a database in the place of the one that is reached. -/
  place : Tables → σ → σ
  /-- Accepts the next statement, or refuses it. -/
  accept : Asking σ Unit
  tables_place (db : Tables) (s : σ) : tables (place db s) = db
  tables_accept (s : σ) : tables (accept.run s).2 = tables s

/-- A database at hand refuses nothing. -/
instance : Connection Tables where
  tables db := db
  place db _ := db
  accept := pure ()
  tables_place _ _ := rfl
  tables_accept _ := rfl

namespace Tables

variable {σ : Type} [Connection σ] {α : Type}

/-- Does to the database that is reached what is done to one at hand. -/
def reached (x : Asking Tables α) : Asking σ α := fun s =>
  let done := x (Connection.tables s)
  (done.1, Connection.place done.2 s)

/-- Runs a statement, unless it is refused. -/
def statement (x : Asking Tables α) : Asking σ α := do
  Connection.accept
  reached x

/-- A computation that goes back to an earlier database if it fails. -/
def restoring (before : Tables) (x : Asking σ α) : Asking σ α := fun s =>
  match x.run s with
  | (.ok a, s') => (.ok a, s')
  | (.error e, s') => (.error e, Connection.place before s')

/-- A computation between the statements that open and close its transaction. -/
def enclosed (x : Asking σ α) : Asking σ α := do
  Connection.accept
  let a ← x
  Connection.accept
  pure a

/-- All of a computation or nothing: if it fails, the database is as before. -/
def transaction (x : Asking σ α) : Asking σ α := do
  let s ← get
  restoring (Connection.tables s) (enclosed x)

/-- Creates the tables that are missing, and the two indices of the snapshots. -/
def init : Asking σ Unit := do
  statement (create .entities)
  statement (create .snapshots)
  statement indexSnapshots
  statement indexSnapshots

/-- Saves entities, all or none. -/
def saveEntities (es : List Entity) : Asking σ Unit :=
  if es.isEmpty then pure () else transaction (es.forM fun e => statement (insertEntity e))

/-- Saves snapshots, all or none. -/
def saveSnapshots (ss : List Snapshot) : Asking σ Unit :=
  if ss.isEmpty then pure () else transaction (ss.forM fun s => statement (insertSnapshot s))

/-- The numbers of snapshots and of entities. -/
def counts : Asking σ (Nat × Nat) := do
  let ss ← statement snapshots
  let es ← statement entities
  pure (ss.length, es.length)

/-- A purge whose first statement has run: its outcome, and the database to go
    back to if the second one fails. -/
structure Purging where
  /-- The database before the purge. -/
  before : Tables
  /-- The number of snapshots that the first statement removed. -/
  removed : Except StoreError Nat

/-- Opens the transaction of a purge and removes the old snapshots. -/
def beginPurge (cutoffMs : Int64) : StateM σ Purging := do
  let before := Connection.tables (← get)
  let first : Asking σ Nat := do
    Connection.accept
    statement (deleteSnapshotsBefore cutoffMs)
  let removed ← first.run
  pure ⟨before, removed⟩

/-- Removes the orphans of a purge and closes its transaction. -/
def endPurge (p : Purging) : Asking σ PurgeCounts := restoring p.before do
  let removed ← ExceptT.mk (pure p.removed)
  let orphans ← statement deleteOrphans
  Connection.accept
  pure ⟨.ofNat removed, .ofNat orphans⟩

/-- Closes the gaps of the database, which no answer shows. -/
def vacuum : Asking σ Unit := statement (pure ())

instance : SnapshotStore σ where
  rowsIn w := transaction (statement (rowsIn w))
  latestIn w := transaction (statement (latestIn w))
  Purging := Purging
  beginPurge := beginPurge
  endPurge := endPurge
  compact := vacuum

end Tables

end Metering
