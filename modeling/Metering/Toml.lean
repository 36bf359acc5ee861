import Metering.Toml.Quoted
import Metering.Toml.Scalar
import Metering.Toml.Tree

/-!
# Settings as text

Documents in the notation of TOML, version 1.1.

* `Toml.value?`: the value at the head of a text;
* `Toml.statements?`: the headers and settings that a text consists of;
* `Toml.read?`: the document that a text is.
-/

namespace Metering.Toml

/-! ### Between values -/

/-- A text without the blanks at its head. -/
def skipBlank (s : List Char) : List Char := s.dropWhile Quoted.isBlank

/-- The text behind blanks, line ends and comments, unless a comment is at fault. -/
def gap? : Bool → List Char → Option (List Char)
  | _, [] => some []
  | _, '\n' :: s => gap? false s
  | _, '\r' :: '\n' :: s => gap? false s
  | true, c :: s => if Quoted.isPlain c then gap? true s else none
  | false, c :: s =>
    if Quoted.isBlank c then gap? false s
    else if c = '#' then gap? true s
    else some (c :: s)

/-- The next line, if nothing is left of this one but blanks and a comment. -/
def nextLine? (s : List Char) : Option (List Char) :=
  let s := match skipBlank s with
    | '#' :: s => s.dropWhile Quoted.isPlain
    | s => s
  match s with
  | [] => some []
  | '\n' :: s => some s
  | '\r' :: '\n' :: s => some s
  | _ => none

/-! ### Keys -/

/-- A dotted key: its last part, and those before it. -/
structure Key where
  /-- The parts before the last one. -/
  path : List String
  /-- The last part. -/
  last : String
deriving Repr, DecidableEq

/-- All parts of a key. -/
def Key.parts (k : Key) : List String := k.path ++ [k.last]

/-- A character of a key without quotes. -/
def isBare (c : Char) : Bool := c.isAlphanum || c = '_' || c = '-'

/-- A part of a key at the head of a text, and the rest. -/
def part? : List Char → Option (String × List Char)
  | '"' :: s => Quoted.line? '"' s
  | '\'' :: s => Quoted.line? '\'' s
  | s =>
    match s.takeWhile isBare with
    | [] => none
    | part => some (String.ofList part, s.dropWhile isBare)

/-- A key of at most so many parts at the head of a text, and the rest behind blanks. -/
def keyFrom? : Nat → List Char → Option (Key × List Char)
  | 0, _ => none
  | parts + 1, s => do
    let (part, rest) ← part? (skipBlank s)
    match skipBlank rest with
    | '.' :: rest => do
      let (key, rest) ← keyFrom? parts rest
      pure (⟨part :: key.path, key.last⟩, rest)
    | rest => pure (⟨[], part⟩, rest)

/-- The greatest depth of values in each other, and the greatest number of the
    parts of a key. -/
def greatestDepth : Nat := 80

/-- A key at the head of a text, and the rest behind blanks. -/
def key? (s : List Char) : Option (Key × List Char) := keyFrom? greatestDepth s

/-! ### Values -/

/-- Things with commas between them up to a closing bracket, and the rest behind
    it. There may be a comma behind the last one. Every step takes a character of
    the text, whose length bounds the steps. -/
def sequence? {α : Type} (closing : Char) (item? : List Char → Option (α × List Char)) :
    Nat → List Char → Option (List α × List Char)
  | 0, _ => none
  | steps + 1, s => do
    match ← gap? false s with
    | [] => none
    | c :: rest =>
      if c = closing then pure ([], rest)
      else
        let (item, rest) ← item? (c :: rest)
        match ← gap? false rest with
        | ',' :: rest =>
          let (items, rest) ← sequence? closing item? steps rest
          pure (item :: items, rest)
        | d :: rest => if d = closing then pure ([item], rest) else none
        | [] => none

/-- A key and its value at the head of a text, and the rest. -/
def setting? (value? : List Char → Option (Document × List Char)) (s : List Char) :
    Option ((Key × Document) × List Char) := do
  let (key, rest) ← key? s
  match rest with
  | '=' :: rest =>
    let (d, rest) ← value? (skipBlank rest)
    pure ((key, d), rest)
  | _ => none

/-- The table of settings between braces. -/
def table? (settings : List (Key × Document)) : Option Document :=
  let put? (t : Tree) (setting : Key × Document) : Option Tree :=
    t.put? setting.1.path setting.1.last setting.2
  (settings.foldlM put? []).map Tree.document

/-- The value at the head of a text, and the rest. Values in brackets and braces
    are at most `depth` deep in each other. -/
def valueFrom? : Nat → List Char → Option (Document × List Char)
  | _, '"' :: s => (Quoted.text? '"' s).map fun (t, rest) => (.text t, rest)
  | _, '\'' :: s => (Quoted.text? '\'' s).map fun (t, rest) => (.text t, rest)
  | depth + 1, '[' :: s =>
    (sequence? ']' (valueFrom? depth) (s.length + 1) s).map fun (ds, rest) => (.list ds, rest)
  | depth + 1, '\x7b' :: s => do
    let (settings, rest) ← sequence? '\x7d' (setting? (valueFrom? depth)) (s.length + 1) s
    pure (← table? settings, rest)
  | _, s => Scalar.take? s

/-- The value at the head of a text, and the rest. -/
def value? (s : List Char) : Option (Document × List Char) := valueFrom? greatestDepth s

/-! ### Lines -/

/-- What a line says. -/
inductive Statement where
  /-- The settings below are those of a table. -/
  | table (key : Key)
  /-- The settings below are those of one more table of several in a row. -/
  | nextTable (key : Key)
  /-- A setting. -/
  | setting (key : Key) (d : Document)

/-- The statement at the head of a text, and the rest. -/
def statement? : List Char → Option (Statement × List Char)
  | '[' :: '[' :: s =>
    match key? s with
    | some (key, ']' :: ']' :: rest) => some (.nextTable key, rest)
    | _ => none
  | '[' :: s =>
    match key? s with
    | some (key, ']' :: rest) => some (.table key, rest)
    | _ => none
  | s => (setting? value? s).map fun ((key, d), rest) => (.setting key d, rest)

/-- The statements of a text, one a line. Every line takes a character of the
    text, whose length bounds the steps. -/
def statementsFrom? : Nat → List Char → Option (List Statement)
  | 0, _ => none
  | steps + 1, s => do
    match ← gap? false s with
    | [] => pure []
    | s =>
      let (statement, rest) ← statement? s
      pure (statement :: (← statementsFrom? steps (← nextLine? rest)))

/-- The statements of a text. A mark of its byte order at its head is passed over. -/
def statements? (s : List Char) : Option (List Statement) :=
  let s := match s with
    | '\uFEFF' :: s => s
    | s => s
  statementsFrom? (s.length + 1) s

/-- What statements build: the tree, and the path of the table whose settings follow. -/
structure Building where
  /-- The tree. -/
  tree : Tree := []
  /-- The path of the table. -/
  table : List String := []

/-- One more statement. -/
def Building.add? (b : Building) : Statement → Option Building
  | .table key => (b.tree.open? key.path key.last).map (⟨·, key.parts⟩)
  | .nextTable key => (b.tree.append? key.path key.last).map (⟨·, key.parts⟩)
  | .setting key d => (b.tree.putAt? b.table key.path key.last d).map (⟨·, b.table⟩)

/-- The document that statements describe. -/
def build? (statements : List Statement) : Option Document :=
  (statements.foldlM Building.add? {}).map fun b => b.tree.document

/-- The document that a text is. -/
def read? (text : String) : Option Document := (statements? text.toList).bind build?

end Metering.Toml
