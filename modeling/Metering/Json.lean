import Metering.Json.Numeral
import Metering.Json.Quoted

/-!
# JSON

Documents in the notation of JSON.

* `Json.Reader`: how much is taken for a document;
* `Json.value?`: the document at the head of a text;
* `Json.read?`: the document that a whole text is;
* `Json.write`: a document as text.

Texts are read by recursive descent. Of two levels of the descent at least one
takes a character, so twice a text's length bounds the levels. How deep lists and
records may stand in one another is another matter, and up to the reader.
-/

namespace Metering.Json

/-- Blank characters. -/
def isBlank (c : Char) : Bool := c = ' ' || c = '\t' || c = '\n' || c = '\r'

/-- The text behind leading blanks. -/
def skipBlank (s : List Char) : List Char := s.dropWhile isBlank

/-- The text behind a given beginning. -/
def after? : List Char → List Char → Option (List Char)
  | [], s => some s
  | c :: cs, d :: s => if c = d then after? cs s else none
  | _ :: _, [] => none

/-- How much is taken for a document. -/
inductive Reader where
  /-- All that has the notation of one. -/
  | lenient
  /-- No lone surrogates, no numbers out of range, and no more than so many lists and
      records in one another. -/
  | strict (depth : Nat)

/-- The reader refuses lone surrogates and numbers out of range. -/
def Reader.isStrict : Reader → Bool
  | lenient => false
  | strict _ => true

/-- The reader of what stands in a list or in a record. -/
def Reader.inner? : Reader → Option Reader
  | lenient => some lenient
  | strict 0 => none
  | strict (depth + 1) => some (strict depth)

/-- A number. If not `strict`, one beyond all double-precision numbers is taken as undefined. -/
def number? (strict : Bool) (s : List Char) : Option (Document × List Char) := do
  let (x, rest) ← Numeral.read? s
  match x.value? with
  | some d => pure (d, rest)
  | none => if strict then none else pure (.real .undefined, rest)

mutual

/-- The document at the head of a text, and the rest. -/
def valueFrom (reader : Reader) : Nat → List Char → Option (Document × List Char)
  | 0, _ => none
  | levels + 1, s =>
    match skipBlank s with
    | '"' :: rest => do
      let (t, rest) ← Quoted.read? reader.isStrict rest
      pure (.text t, rest)
    | '[' :: rest => do
      let inner ← reader.inner?
      match skipBlank rest with
      | ']' :: rest => pure (.list [], rest)
      | rest => do
        let (items, rest) ← itemsFrom inner levels rest
        pure (.list items, rest)
    | '\x7b' :: rest => do
      let inner ← reader.inner?
      match skipBlank rest with
      | '\x7d' :: rest => pure (.record [], rest)
      | rest => do
        let (members, rest) ← membersFrom inner levels rest
        pure (.record members, rest)
    | 'n' :: rest => (after? ['u', 'l', 'l'] rest).map (.null, ·)
    | 't' :: rest => (after? ['r', 'u', 'e'] rest).map (.boolean true, ·)
    | 'f' :: rest => (after? ['a', 'l', 's', 'e'] rest).map (.boolean false, ·)
    | rest => number? reader.isStrict rest

/-- The items of a list up to its closing bracket, and the rest behind it. -/
def itemsFrom (reader : Reader) : Nat → List Char → Option (List Document × List Char)
  | 0, _ => none
  | levels + 1, s => do
    let (item, rest) ← valueFrom reader levels s
    match skipBlank rest with
    | ']' :: rest => pure ([item], rest)
    | ',' :: rest =>
      let (items, rest) ← itemsFrom reader levels rest
      pure (item :: items, rest)
    | _ => none

/-- The members of a record up to its closing brace, and the rest behind it. -/
def membersFrom (reader : Reader) :
    Nat → List Char → Option (List (String × Document) × List Char)
  | 0, _ => none
  | levels + 1, s =>
    match skipBlank s with
    | '"' :: rest => do
      let (name, rest) ← Quoted.read? reader.isStrict rest
      match skipBlank rest with
      | ':' :: rest =>
        let (value, rest) ← valueFrom reader levels rest
        match skipBlank rest with
        | '\x7d' :: rest => pure ([(name, value)], rest)
        | ',' :: rest =>
          let (members, rest) ← membersFrom reader levels rest
          pure ((name, value) :: members, rest)
        | _ => none
      | _ => none
    | _ => none

end

/-- The document at the head of a text, and the rest. -/
def value? (reader : Reader) (s : List Char) : Option (Document × List Char) :=
  valueFrom reader (2 * s.length + 2) s

/-- So many lists and records may stand in one another. -/
def maxDepth : Nat := 127

/-- The document that a whole text is. -/
def read? (s : String) : Option Document := do
  let (d, rest) ← value? (.strict maxDepth) s.toList
  if (skipBlank rest).isEmpty then some d else none

mutual

/-- A document as text. -/
def write : Document → String
  | .null => "null"
  | .boolean b => if b then "true" else "false"
  | .integer n => toString n
  | .real x => x.text .compact
  | .text s => Quoted.write s
  | .list items => "[" ++ writeItems items ++ "]"
  | .record members => "\x7b" ++ writeMembers members ++ "\x7d"

/-- The items of a list with commas between them. -/
def writeItems : List Document → String
  | [] => ""
  | [d] => write d
  | d :: ds => write d ++ "," ++ writeItems ds

/-- The members of a record with commas between them. -/
def writeMembers : List (String × Document) → String
  | [] => ""
  | [(name, d)] => Quoted.write name ++ ":" ++ write d
  | (name, d) :: ms => Quoted.write name ++ ":" ++ write d ++ "," ++ writeMembers ms

end

end Metering.Json
