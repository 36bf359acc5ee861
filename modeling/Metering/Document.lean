import Metering.Binary64
import Std.Data.ExtTreeMap

/-!
# Documents

A document is a tree of values with named members, whatever notation it was
written in. Requests, answers and settings are read from documents.

* `Document`: the values;
* `Document.Members`: the members of a record by name, each name once.
-/

namespace Metering

/-- A value of a document. -/
inductive Document where
  /-- The absence of a value. -/
  | null
  /-- A truth value. -/
  | boolean (b : Bool)
  /-- A whole number. -/
  | integer (n : Int)
  /-- A number that was written with a fraction or an exponent. -/
  | real (x : Binary64)
  /-- A text. -/
  | text (s : String)
  /-- Values in a row. -/
  | list (items : List Document)
  /-- Values by name, in the order in which they were written. -/
  | record (members : List (String × Document))
deriving Repr, Inhabited

namespace Document

/-- The members of a record by name. -/
abbrev Members := Std.ExtTreeMap String Document

/-- The members of a list by name. Of a repeated name the last member counts. -/
def Members.ofList (members : List (String × Document)) : Members :=
  members.foldl (fun m (name, value) => m.insert name value) ∅

end Document

end Metering
