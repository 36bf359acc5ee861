import Metering.Period

/-!
# Failures

What can go wrong between a request and its answer: the store of snapshots
fails, or the caller asks for a period that usage cannot be apportioned to.
Odd samples are no failure.

* `StoreError` and `ReportError`: the causes, and `message`, their wording.
-/

namespace Metering

/-- A table of the store. -/
inductive Table where
  /-- The entities, one row for each identity. -/
  | entities
  /-- The snapshots, one row for each sample. -/
  | snapshots
deriving Repr, DecidableEq

/-- The name of a table in the database. -/
def Table.name : Table → String
  | entities => "entity_attributes"
  | snapshots => "usage_snapshot"

/-- Why a store could not do what it was asked. -/
inductive StoreError where
  /-- A statement needs a table that the database does not have. -/
  | missingTable (table : Table)
  /-- The store could not be reached. -/
  | unavailable (reason : String)
deriving Repr, DecidableEq

/-- The wording of a store's failure. -/
def StoreError.message : StoreError → String
  | missingTable table =>
    "database error: error returned from database: (code: 1) no such table: " ++ table.name
  | unavailable reason => "store unavailable: " ++ reason

/-- Why there is no report. -/
inductive ReportError where
  /-- The period does not begin before it ends. -/
  | invalidPeriod (period : Period)
  /-- The store failed. -/
  | store (error : StoreError)
deriving Repr, DecidableEq

/-- The wording of a report's failure. -/
def ReportError.message : ReportError → String
  | invalidPeriod period => "invalid period " ++ period.text ++ ": duration must be > 0"
  | store error => error.message

end Metering
