import Metering.Text.Digits

/-!
# Fields of a schedule

A schedule says for seconds, minutes, hours, days of the month, months, days of
the week and years which values it matches. A field is a list of items with
commas between them: a value, a range, everything, each of these in steps, or a
name.

* `Part`: what a field is about, with its least and its greatest value and its names;
* `Item`: an item as it is written, `Item.read?` at the head of a text;
* `Item.values?`: the values of an item, if it is in order for its part;
* `Part.read?`: the values that a field at the head of a text matches.

Blanks may surround a field, and every number and name in it.
-/

namespace Metering.Cron

/-- What a field of a schedule is about. -/
inductive Part where
  | second | minute | hour | dayOfMonth | month | dayOfWeek | year
deriving Repr, DecidableEq

namespace Part

/-- The least value. -/
def least : Part → Nat
  | second | minute | hour => 0
  | dayOfMonth | month | dayOfWeek => 1
  | year => 1970

/-- The greatest value. -/
def greatest : Part → Nat
  | second | minute => 59
  | hour => 23
  | dayOfMonth => 31
  | month => 12
  | dayOfWeek => 7
  | year => 2100

/-- The names of values, in small letters. -/
def names : Part → List (String × Nat)
  | month => [("jan", 1), ("january", 1), ("feb", 2), ("february", 2), ("mar", 3), ("march", 3),
      ("apr", 4), ("april", 4), ("may", 5), ("jun", 6), ("june", 6), ("jul", 7), ("july", 7),
      ("aug", 8), ("august", 8), ("sep", 9), ("september", 9), ("oct", 10), ("october", 10),
      ("nov", 11), ("november", 11), ("dec", 12), ("december", 12)]
  | dayOfWeek => [("sun", 1), ("sunday", 1), ("mon", 2), ("monday", 2), ("tue", 3), ("tues", 3),
      ("tuesday", 3), ("wed", 4), ("wednesday", 4), ("thu", 5), ("thurs", 5), ("thursday", 5),
      ("fri", 6), ("friday", 6), ("sat", 7), ("saturday", 7)]
  | _ => []

/-- A question mark stands for everything, which it does for days. -/
def takesAny : Part → Bool
  | dayOfMonth | dayOfWeek => true
  | _ => false

/-- The value is neither too small nor too great. -/
def Admits (p : Part) (n : Nat) : Prop := p.least ≤ n ∧ n ≤ p.greatest

instance (p : Part) (n : Nat) : Decidable (p.Admits n) := inferInstanceAs (Decidable (_ ∧ _))

/-- The value of a name, however its letters are written. -/
def named? (p : Part) (name : List Char) : Option Nat :=
  p.names.lookup (String.ofList (name.map Char.toLower))

end Part

/-- Values as they are written. -/
inductive Span where
  /-- Every value. -/
  | all
  /-- One value. -/
  | point (n : Nat)
  /-- The values from one to another. -/
  | range (first last : Nat)
  /-- The values from one name to another. -/
  | names (first last : List Char)
deriving Repr, DecidableEq

/-- An item of a field as it is written. -/
inductive Item where
  /-- Values. -/
  | span (s : Span)
  /-- Every so many of the values; with a single value, of those from it on. -/
  | step (s : Span) (n : Nat)
  /-- The value of a name. -/
  | name (letters : List Char)
deriving Repr, DecidableEq

/-- Blank characters. -/
def isBlank (c : Char) : Bool := c = ' ' || c = '\t' || c = '\r' || c = '\n'

/-- The text behind leading blanks. -/
def skipBlank (s : List Char) : List Char := s.dropWhile isBlank

/-- A number of at most 32 bits, with blanks around it, and the rest. -/
def readNumber? (s : List Char) : Option (Nat × List Char) :=
  match Text.digits 10 (skipBlank s) with
  | ([], _) => none
  | (ds, rest) =>
    if Text.ofDigits 10 ds < 0x100000000 then some (Text.ofDigits 10 ds, skipBlank rest) else none

/-- A name, with blanks around it, and the rest. -/
def readName? (s : List Char) : Option (List Char × List Char) :=
  let s := skipBlank s
  match s.takeWhile Char.isAlpha with
  | [] => none
  | letters => some (letters, skipBlank (s.dropWhile Char.isAlpha))

/-- The text behind a character. -/
def after? (c : Char) : List Char → Option (List Char)
  | d :: rest => if d = c then some rest else none
  | [] => none

namespace Span

/-- Two numbers with a dash between them. -/
def readRange? (s : List Char) : Option (Span × List Char) := do
  let (first, s) ← readNumber? s
  let (last, s) ← readNumber? (← after? '-' s)
  pure (range first last, s)

/-- Two names with a dash between them. -/
def readNames? (s : List Char) : Option (Span × List Char) := do
  let (first, s) ← readName? s
  let (last, s) ← readName? (← after? '-' s)
  pure (names first last, s)

/-- The longest way in which a text begins with values. -/
def read? (takesAny : Bool) (s : List Char) : Option (Span × List Char) :=
  match s with
  | '*' :: rest => some (all, rest)
  | '?' :: rest => if takesAny then some (all, rest) else none
  | _ => readRange? s <|> (readNumber? s).map (fun (n, rest) => (point n, rest)) <|> readNames? s

/-- The values between two, if they are in order. -/
def between? (p : Part) (first last : Nat) : Option (List Nat) :=
  if p.Admits first ∧ p.Admits last ∧ first ≤ last then
    some (List.range' first (last + 1 - first))
  else none

/-- The values that are meant. -/
def values? (p : Part) : Span → Option (List Nat)
  | all => between? p p.least p.greatest
  | point n => between? p n n
  | range first last => between? p first last
  | names first last => do between? p (← p.named? first) (← p.named? last)

end Span

/-- The first of the values and then every `n`-th. -/
def everyNth (n : Nat) (values : List Nat) : List Nat :=
  (values.zipIdx.filter fun (_, i) => i % n = 0).map (·.1)

namespace Item

/-- The longest way in which a text begins with an item. -/
def read? (takesAny : Bool) (s : List Char) : Option (Item × List Char) :=
  let stepped := do
    let (values, s) ← Span.read? takesAny s
    let (n, s) ← readNumber? (← after? '/' s)
    pure (step values n, s)
  stepped <|> (Span.read? takesAny s).map (fun (values, rest) => (span values, rest)) <|>
    (readName? s).map (fun (letters, rest) => (name letters, rest))

/-- The values of an item. A step lies between one and the greatest value of the part. -/
def values? (p : Part) : Item → Option (List Nat)
  | span s => s.values? p
  | step s n =>
    if 1 ≤ n ∧ n ≤ p.greatest then
      (match s with
        | .point first => Span.between? p first p.greatest
        | s => s.values? p).map (everyNth n)
    else none
  | name letters => (p.named? letters).map ([·])

end Item

namespace Part

/-- Items with commas between them, and the rest. Every item takes a character,
    so the length of the text bounds their number. -/
def readItems? (p : Part) : Nat → List Char → Option (List Item × List Char)
  | 0, _ => none
  | items + 1, s => do
    let (item, s) ← Item.read? p.takesAny s
    match s with
    | ',' :: rest =>
      let (more, rest) ← readItems? p items rest
      pure (item :: more, rest)
    | _ => pure ([item], s)

/-- The values that the field at the head of a text matches, in order, and the rest. -/
def read? (p : Part) (s : List Char) : Option (List Nat × List Char) := do
  let (items, rest) ← p.readItems? (s.length + 1) (skipBlank s)
  let values ← items.mapM (·.values? p)
  pure ((List.range' p.least (p.greatest + 1 - p.least)).filter values.flatten.contains,
    skipBlank rest)

end Part

end Metering.Cron
