import Metering.Document

/-!
# Trees of settings

A text of settings gives its values in any order, under headers and dotted
keys, and the tables between the root and a value come to be as they are
needed. A table has one definition: a header of its own, or the dotted keys
that lead through it. A tree keeps how each table came to be, so that a second
definition is refused.

* `Tree.put?`: a value at a dotted key of a table;
* `Tree.open?`, `Tree.append?`: the table of a header, and one more table of a list;
* `Tree.document`: the values alone.
-/

namespace Metering.Toml

/-- How a table came to be. -/
inductive Origin where
  /-- By a header of its own. -/
  | header
  /-- By the header of a table inside it. -/
  | implied
  /-- By a dotted key of a value inside it. -/
  | dotted
deriving Repr, DecidableEq

/-- What stands at a key. -/
inductive Node where
  /-- A value, to which nothing can be added. -/
  | value (d : Document)
  /-- A table. -/
  | table (origin : Origin) (members : List (String × Node))
  /-- Tables in a row: the last one, to which members can be added, and those
      before it, the latest first. -/
  | tables (last : List (String × Node)) (earlier : List (List (String × Node)))

/-- The members of a table. -/
abbrev Tree := List (String × Node)

mutual

/-- The value of a node. -/
def Node.document : Node → Document
  | .value d => d
  | .table _ members => .record (membersDocuments members)
  | .tables last earlier =>
    .list ((Document.record (membersDocuments last) :: tablesDocuments earlier).reverse)

/-- The values of members. -/
def membersDocuments : List (String × Node) → List (String × Document)
  | [] => []
  | (key, node) :: members => (key, node.document) :: membersDocuments members

/-- The values of tables. -/
def tablesDocuments : List (List (String × Node)) → List Document
  | [] => []
  | members :: rest => .record (membersDocuments members) :: tablesDocuments rest

end

namespace Tree

/-- The values alone. -/
def document (t : Tree) : Document := .record (membersDocuments t)

/-- A tree with another node at a key that it has, or with one more key. -/
def set (t : Tree) (key : String) (node : Node) : Tree :=
  match t with
  | [] => [(key, node)]
  | (k, n) :: t => if k = key then (k, node) :: t else (k, n) :: set t key node

/-- Changes the table at a path below a table of origin `origin`; of tables in a
    row, the last one. Tables that are missing on the way come to be by `way`.
    A dotted key does not lead through a table with a header of its own. -/
def change? (way : Origin) (f : Origin → Tree → Option Tree) :
    List String → Origin → Tree → Option Tree
  | [], origin, t => f origin t
  | key :: path, _, t =>
    match t.lookup key with
    | none => (change? way f path way []).map fun inner => t.set key (.table way inner)
    | some (.table origin inner) =>
      if way = .dotted ∧ origin = .header then none
      else (change? way f path origin inner).map fun inner => t.set key (.table origin inner)
    | some (.tables last earlier) =>
      (change? way f path .header last).map fun last => t.set key (.tables last earlier)
    | some (.value _) => none

/-- Puts a value at the last part of a dotted key. The parts before it lead to a
    table that dotted keys define. -/
def put? (path : List String) (key : String) (d : Document) : Tree → Option Tree :=
  change? .dotted
    (fun origin t =>
      if path ≠ [] ∧ origin ≠ .dotted then none
      else if (t.lookup key).isSome then none
      else some (t.set key (.value d)))
    path .header

/-- Defines the table of a header. -/
def open? (path : List String) (key : String) : Tree → Option Tree :=
  change? .implied
    (fun _ t =>
      match t.lookup key with
      | none => some (t.set key (.table .header []))
      | some (.table .implied inner) => some (t.set key (.table .header inner))
      | some _ => none)
    path .header

/-- Adds a table to those in a row. -/
def append? (path : List String) (key : String) : Tree → Option Tree :=
  change? .implied
    (fun _ t =>
      match t.lookup key with
      | none => some (t.set key (.tables [] []))
      | some (.tables last earlier) => some (t.set key (.tables [] (last :: earlier)))
      | some _ => none)
    path .header

/-- Puts a value at a dotted key of the table at a path. -/
def putAt? (table path : List String) (key : String) (d : Document) : Tree → Option Tree :=
  change? .implied (fun _ t => put? path key d t) table .header

end Tree

end Metering.Toml
