import Metering.Text.Digits

/-!
# Quoted text

Texts as they are written in JSON: between quotes, with a backslash before what
cannot stand for itself. A character beyond the first plane may be written as a
pair of surrogates.

* `Quoted.read?`: the text up to the closing quote. Half of a pair of surrogates
  stands for no character; a text may be read with or without regard to that;
* `Quoted.write`: a text in quotes.
-/

namespace Metering.Json.Quoted

/-- The number that four hexadecimal digits stand for, and the rest. -/
def unit? : List Char → Option (Nat × List Char)
  | a :: b :: c :: d :: rest => do
    let a ← Text.hexDigit? a
    let b ← Text.hexDigit? b
    let c ← Text.hexDigit? c
    let d ← Text.hexDigit? d
    pure (((a * 16 + b) * 16 + c) * 16 + d, rest)
  | _ => none

/-- The first half of a pair of surrogates. -/
def isHigh (u : Nat) : Bool := 0xD800 ≤ u && u < 0xDC00

/-- The second half of a pair of surrogates. -/
def isLow (u : Nat) : Bool := 0xDC00 ≤ u && u < 0xE000

/-- The character of a pair of surrogates. -/
def pair (high low : Nat) : Char := Char.ofNat (0x10000 + (high - 0xD800) * 0x400 + (low - 0xDC00))

/-- The character written after `\u`, and the rest. A lone half of a pair is
    refused if `strict`, and otherwise stands for the replacement character. -/
def unicode? (strict : Bool) (s : List Char) : Option (Char × List Char) := do
  let (u, rest) ← unit? s
  if isLow u then
    if strict then none else pure ('\uFFFD', rest)
  else if isHigh u then
    match rest with
    | '\\' :: 'u' :: more =>
      let (v, rest') ← unit? more
      if isLow v then pure (pair u v, rest')
      else if strict then none
      else pure ('\uFFFD', rest)
    | _ => if strict then none else pure ('\uFFFD', rest)
  else pure (Char.ofNat u, rest)

/-- The character that one escaped character stands for. -/
def escaped? : Char → Option Char
  | '"' => some '"'
  | '\\' => some '\\'
  | '/' => some '/'
  | 'b' => some '\x08'
  | 'f' => some '\x0C'
  | 'n' => some '\n'
  | 'r' => some '\r'
  | 't' => some '\t'
  | _ => none

/-- The characters up to the closing quote, in front of those already read in
    reverse order, and the rest behind the quote. Every step takes a character
    of the text, whose length bounds the steps. -/
def readFrom (strict : Bool) : Nat → List Char → List Char → Option (String × List Char)
  | 0, _, _ => none
  | steps + 1, done, s =>
    match s with
    | '"' :: rest => some (String.ofList done.reverse, rest)
    | '\\' :: 'u' :: s => do
      let (c, rest) ← unicode? strict s
      readFrom strict steps (c :: done) rest
    | '\\' :: c :: rest => do
      let c ← escaped? c
      readFrom strict steps (c :: done) rest
    | c :: rest => if c < ' ' then none else readFrom strict steps (c :: done) rest
    | [] => none

/-- The text up to the closing quote, and the rest behind it. -/
def read? (strict : Bool) (s : List Char) : Option (String × List Char) :=
  readFrom strict (s.length + 1) [] s

/-- A hexadecimal digit. -/
def hexChar (n : Nat) : Char := Nat.digitChar (n % 16)

/-- A character as it is written between quotes. -/
def escape (c : Char) : List Char :=
  if c = '"' then ['\\', '"']
  else if c = '\\' then ['\\', '\\']
  else if c = '\n' then ['\\', 'n']
  else if c = '\r' then ['\\', 'r']
  else if c = '\t' then ['\\', 't']
  else if c = '\x08' then ['\\', 'b']
  else if c = '\x0C' then ['\\', 'f']
  else if c < ' ' then ['\\', 'u', '0', '0', hexChar (c.toNat / 16), hexChar c.toNat]
  else [c]

/-- A text in quotes. -/
def write (s : String) : String := "\"" ++ String.ofList (s.toList.flatMap escape) ++ "\""

end Metering.Json.Quoted
