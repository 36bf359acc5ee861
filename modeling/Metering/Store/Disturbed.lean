import Metering.Store.Tables

/-!
# A disturbed database

A database together with the refusals that its next statements meet. It tells
what becomes of an operation that is broken off at any of its statements.
-/

namespace Metering

/-- A database and what becomes of the statements to come. -/
structure Disturbed where
  /-- The database. -/
  db : Tables
  /-- For one statement after the other, why it is refused, or `none` if it is accepted.
      So are all statements after these. -/
  refusals : List (Option StoreError) := []
deriving DecidableEq

namespace Disturbed

/-- Takes the next refusal, if there is one. -/
def accept : Asking Disturbed Unit := do
  match (← get).refusals with
  | [] => pure ()
  | refusal :: rest =>
    modify fun s => { s with refusals := rest }
    match refusal with
    | none => pure ()
    | some cause => throw cause

instance : Connection Disturbed where
  tables := db
  place db s := { s with db }
  accept := accept
  tables_place _ _ := rfl
  tables_accept := by rintro ⟨db, _ | ⟨_ | cause, rest⟩⟩ <;> rfl

end Disturbed

end Metering
