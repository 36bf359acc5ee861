import Metering.Document
import Metering.Saturation
import Metering.Text.Shown

/-!
# Decoding documents

How values of a fixed shape are read from documents, and what is wrong with a
document that has another shape.

* `DecodeError`: the causes, and `message`, their wording;
* `Document.int64`, `natural`, `string`, `boolean`, `mapOf`: values without fields;
* `Fields`: values with fields. The fields of a record may come in any order
  and among others. They are looked at in the order of their names, and only
  then those that are missing are missed, in the order of declaration.
  A list is read as the fields in the order of declaration.
-/

namespace Metering

/-- What a document should have been. -/
inductive Expected where
  /-- A signed integer of 64 bits. -/
  | signed
  /-- An unsigned integer of so many bits. -/
  | unsigned (bits : Nat)
  /-- A text. -/
  | string
  /-- A truth value. -/
  | boolean
  /-- Values by name. -/
  | map
  /-- A record with a name. -/
  | record (name : String)
deriving Repr, DecidableEq

/-- The words for what was expected. -/
def Expected.text : Expected → String
  | signed => "i64"
  | unsigned bits => "u" ++ toString bits
  | string => "a string"
  | boolean => "a boolean"
  | map => "a map"
  | record name => "struct " ++ name

/-- What is wrong with a document. -/
inductive DecodeError where
  /-- A field is not there. -/
  | missingField (name : String)
  /-- The document is of another kind. -/
  | wrongType (found : Document) (expected : Expected)
  /-- The document is an integer, but not of the right range. -/
  | outOfRange (n : Int) (expected : Expected)
  /-- A list ends before the fields of a record do. -/
  | tooShort (length : Nat) (name : String) (fields : Nat)
  /-- A list goes on behind the fields of a record. -/
  | tooLong (length : Nat)

namespace Document

/-- The words for what a document is. -/
def kind (spelling : Binary64.Spelling) : Document → String
  | null => "null"
  | boolean b => "boolean `" ++ toString b ++ "`"
  | integer n => "integer `" ++ toString n ++ "`"
  | real x => "floating point `" ++ x.text spelling ++ "`"
  | text s => "string " ++ Text.shown s
  | list _ => "sequence"
  | record _ => "map"

end Document

/-- The wording of what is wrong. -/
def DecodeError.message (spelling : Binary64.Spelling) : DecodeError → String
  | missingField name => "missing field `" ++ name ++ "`"
  | wrongType found expected =>
    "invalid type: " ++ found.kind spelling ++ ", expected " ++ expected.text
  | outOfRange n expected =>
    "invalid value: integer `" ++ toString n ++ "`, expected " ++ expected.text
  | tooShort length name fields =>
    "invalid length " ++ toString length ++ ", expected struct " ++ name ++ " with " ++
      toString fields ++ (if fields = 1 then " element" else " elements")
  | tooLong length => "invalid length " ++ toString length ++ ", expected fewer elements in array"

/-- A reader of values of type `α`. -/
abbrev Decoder (α : Type) := Document → Except DecodeError α

namespace Document

/-- A signed integer of 64 bits. -/
def int64 : Decoder Int64
  | integer n =>
    match Saturation.fits? n with
    | some a => .ok a
    | none => .error (.outOfRange n .signed)
  | d => .error (.wrongType d .signed)

/-- An unsigned integer of so many bits. -/
def natural (bits : Nat) : Decoder Nat
  | integer n =>
    if 0 ≤ n ∧ n.toNat < Nat.pow 2 bits then .ok n.toNat else .error (.outOfRange n (.unsigned bits))
  | d => .error (.wrongType d (.unsigned bits))

/-- An unsigned integer of 64 bits. -/
def uint64 : Decoder UInt64 := fun d => (natural 64 d).map UInt64.ofNat

/-- A text. -/
def string : Decoder String
  | text s => .ok s
  | d => .error (.wrongType d .string)

/-- A truth value. -/
def bool : Decoder Bool
  | boolean b => .ok b
  | d => .error (.wrongType d .boolean)

/-- Values of one type by name. They are looked at in the order of their names. -/
def mapOf {α : Type} (decode : Decoder α) : Decoder (Std.ExtTreeMap String α)
  | record members =>
    (Members.ofList members).toList.foldlM
      (fun m (name, d) => do pure (m.insert name (← decode d))) ∅
  | d => .error (.wrongType d .map)

end Document

/-- The fields of a record that is a value of type `α`. -/
structure Fields (α : Type) where
  /-- The names of the fields in the order of declaration, each with what is wrong
      with a document in its place. -/
  checks : List (String × (Document → Option DecodeError))
  /-- The value, from the documents of the fields. -/
  build : (String → Option Document) → Except DecodeError α

namespace Fields

variable {α β : Type}

/-- What a decoder finds wrong with a document. -/
def faultOf (decode : Decoder α) (d : Document) : Option DecodeError :=
  match decode d with
  | .ok _ => none
  | .error e => some e

/-- A field that has to be there. -/
def required (name : String) (decode : Decoder α) : Fields α where
  checks := [(name, faultOf decode)]
  build field :=
    match field name with
    | some d => decode d
    | none => .error (.missingField name)

/-- A field with a value for when it is not there. -/
def optional (name : String) (decode : Decoder α) (default : α) : Fields α where
  checks := [(name, faultOf decode)]
  build field :=
    match field name with
    | some d => decode d
    | none => .ok default

/-- No fields. -/
protected def pure (a : α) : Fields α := ⟨[], fun _ => .ok a⟩

/-- Fields followed by more fields. -/
protected def seq (f : Fields (α → β)) (x : Unit → Fields α) : Fields β where
  checks := f.checks ++ (x ()).checks
  build field := do
    let g ← f.build field
    let a ← (x ()).build field
    pure (g a)

instance : Applicative Fields where
  pure := Fields.pure
  seq := Fields.seq

/-- The first fault of the members of a record, in the order of their names. -/
def fault? (f : Fields α) (members : Document.Members) : Option DecodeError :=
  members.toList.findSome? fun (name, d) => (f.checks.lookup name).bind fun check => check d

/-- The value that the members of a record describe. -/
def ofMembers (f : Fields α) (members : Document.Members) : Except DecodeError α :=
  match f.fault? members with
  | some e => .error e
  | none => f.build (members[·]?)

/-- The value that a list describes, its items being the fields in order. A list
    that is too long is refused if `exact`. -/
def ofItems (f : Fields α) (name : String) (exact : Bool) (items : List Document) :
    Except DecodeError α :=
  let named := (f.checks.zip items).map fun ((field, _), d) => (field, d)
  match (f.checks.zip items).findSome? fun ((_, check), d) => check d with
  | some e => .error e
  | none =>
    match f.build (named.lookup ·) with
    | .error (.missingField field) =>
      .error (.tooShort (f.checks.findIdx (·.1 = field)) name f.checks.length)
    | .error e => .error e
    | .ok a =>
      if exact && f.checks.length < items.length then .error (.tooLong items.length) else .ok a

/-- The record of these fields, by members or by items. -/
def decode (f : Fields α) (name : String) (exact : Bool) : Decoder α
  | .record members => f.ofMembers (.ofList members)
  | .list items => f.ofItems name exact items
  | d => .error (.wrongType d (.record name))

end Fields

end Metering
