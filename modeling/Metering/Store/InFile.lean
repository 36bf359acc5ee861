import Metering.Files
import Metering.Store.Tables

/-!
# Databases in files

A database is kept in a file. Opening it makes the directories that lead to the
file, and the file itself if there is none. An empty file is a database without
tables; any other file that is not a database cannot be opened as one.

* `Tables.openIn`: the database in a file.
-/

namespace Metering

/-- What a file holds. -/
inductive FileContent where
  /-- A database. -/
  | database (db : Tables)
  /-- Anything else. -/
  | other (bytes : ByteArray)

/-- Why a database cannot be opened. -/
inductive OpenFault where
  /-- The directories that lead to the file cannot be made. -/
  | noDirectory
  /-- There is something at the path, but no database. -/
  | noDatabase
deriving Repr, DecidableEq

namespace Tables

/-- The database that is at a place where a file can be. -/
def ofEntry : Except AccessError (Entry FileContent) → Except OpenFault Tables
  | .ok (.file (.database db)) => .ok db
  | .ok (.file (.other bytes)) => if bytes.size = 0 then .ok {} else .error .noDatabase
  | .ok .directory => .error .noDatabase
  | .error _ => .ok {}

/-- Opens the database at a path: the files with what had to be made, and the database. -/
def openIn (fs : Files FileContent) (p : Path) : Except OpenFault (Files FileContent × Tables) :=
  match fs.makeDirectories? p.names.dropLast with
  | none => .error .noDirectory
  | some fs =>
    if p.isOutside ∨ p.isDirectory then .error .noDatabase
    else (ofEntry (fs.find p)).map fun db => (fs.put p.names (.database db), db)

end Tables

end Metering
