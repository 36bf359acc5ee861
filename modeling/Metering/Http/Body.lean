import Metering.Document.Decode
import Metering.Json

/-!
# The body of a purge request

A purge request is a record with one field, the instant before which snapshots
are to be purged. It may also be written as a list of that one field. The body
is read from its beginning on, and the first fault decides what is wrong: the
text is no JSON, or it is JSON of another shape.

* `Body.purge`: the instant that a body names.
-/

namespace Metering.Http

/-- What is wrong with a body. -/
inductive BodyFault where
  /-- The text is not JSON. -/
  | malformed
  /-- The text is JSON, or begins so, but does not have the right shape. -/
  | misshapen
deriving Repr, DecidableEq

namespace Body

/-- The integer at the head of a text, and the rest. -/
def integer (s : List Char) : Except BodyFault (Int64 × List Char) :=
  match Json.skipBlank s with
  | '[' :: _ | '\x7b' :: _ => .error .misshapen
  | s =>
    match Json.value? (.strict Json.maxDepth) s with
    | none => .error .malformed
    | some (d, rest) =>
      match Document.int64 d with
      | .ok a => .ok (a, rest)
      | .error _ => .error .misshapen

/-- The name of the field. -/
def fieldName : String := "earlierThanMs"

/-- A value that nobody asked for is passed over, whatever it is and however deep. -/
def skip (s : List Char) : Except BodyFault (List Char) :=
  match Json.value? .lenient s with
  | some (_, rest) => .ok rest
  | none => .error .malformed

/-- The member at the head of a text: the field, if it has not been found yet, or
    another member that is passed over. -/
def member (found : Option Int64) (s : List Char) : Except BodyFault (Option Int64 × List Char) :=
  match Json.skipBlank s with
  | '"' :: s =>
    match Json.Quoted.read? true s with
    | none => .error .malformed
    | some (name, s) =>
      if name = fieldName ∧ found.isSome then .error .misshapen
      else
        match Json.skipBlank s with
        | ':' :: s =>
          if name = fieldName then (integer s).map fun (a, rest) => (some a, rest)
          else (skip s).map fun rest => (found, rest)
        | _ => .error .malformed
  | _ => .error .malformed

/-- The members up to the closing brace. Every member takes a character, so the
    length of the text bounds their number. -/
def membersFrom : Nat → Option Int64 → List Char → Except BodyFault (Option Int64 × List Char)
  | 0, _, _ => .error .malformed
  | steps + 1, found, s => do
    let (found, s) ← member found s
    match Json.skipBlank s with
    | '\x7d' :: s => pure (found, s)
    | ',' :: s => membersFrom steps found s
    | _ => throw .malformed

/-- A record with the field. -/
def record (s : List Char) : Except BodyFault (Int64 × List Char) := do
  let (found, s) ← match Json.skipBlank s with
    | '\x7d' :: s => pure (none, s)
    | s => membersFrom (s.length + 1) none s
  match found with
  | some a => pure (a, s)
  | none => throw .misshapen

/-- A list of the field. -/
def list (s : List Char) : Except BodyFault (Int64 × List Char) := do
  match Json.skipBlank s with
  | ']' :: _ => throw .misshapen
  | s =>
    let (a, s) ← integer s
    match Json.skipBlank s with
    | ']' :: s => pure (a, s)
    | _ => throw .malformed

/-- The instant before which snapshots are to be purged. -/
def purge (body : String) : Except BodyFault Int64 := do
  let s := Json.skipBlank body.toList
  let (a, rest) ← match s with
    | '\x7b' :: s => record s
    | '[' :: s => list s
    | s => throw (if (Json.value? (.strict Json.maxDepth) s).isSome then .misshapen else .malformed)
  if (Json.skipBlank rest).isEmpty then pure a else throw .malformed

end Body

end Metering.Http
