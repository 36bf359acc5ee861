import Metering.Document
import Metering.Text.Digits

/-!
# Numerals

Numbers as they are written in JSON: a sign, whole digits without leading
zeros, a fraction, an exponent.

* `Numeral.read?`: the numeral at the head of a text;
* `Numeral.value?`: what it stands for. A numeral of whole digits that fits 64
  bits, signed or unsigned, is an integer; all others are double-precision
  numbers, and there is none for a numeral beyond their range.
-/

namespace Metering.Json

/-- A number as it is written. -/
structure Numeral where
  /-- There is a minus sign. -/
  negative : Bool
  /-- The digits before the point. -/
  whole : List Nat
  /-- The digits after the point; nothing if there is no point. -/
  fraction : List Nat
  /-- The power of ten, if one is written. -/
  exponent? : Option Int
deriving Repr, DecidableEq

namespace Numeral

/-- The digits before the point: a lone zero, or digits that do not start with zero. -/
def readWhole? (s : List Char) : Option (List Nat × List Char) :=
  match Text.digits 10 s with
  | ([], _) => none
  | ([0], rest) => some ([0], rest)
  | (0 :: _, _) => none
  | (ds, rest) => some (ds, rest)

/-- A point and at least one digit, or nothing. -/
def readFraction? : List Char → Option (List Nat × List Char)
  | '.' :: s =>
    match Text.digits 10 s with
    | ([], _) => none
    | (ds, rest) => some (ds, rest)
  | s => some ([], s)

/-- An exponent with at least one digit, or nothing. -/
def readExponent? (s : List Char) : Option (Option Int × List Char) :=
  match s with
  | 'e' :: s | 'E' :: s =>
    let (negative, s) := Text.sign s
    match Text.digits 10 s with
    | ([], _) => none
    | (ds, rest) => some (some (if negative then -Text.ofDigits 10 ds else Text.ofDigits 10 ds), rest)
  | s => some (none, s)

/-- The numeral at the head of a text, and the rest. -/
def read? (s : List Char) : Option (Numeral × List Char) := do
  let (negative, s) := match s with
    | '-' :: s => (true, s)
    | s => (false, s)
  let (whole, s) ← readWhole? s
  let (fraction, s) ← readFraction? s
  let (exponent?, s) ← readExponent? s
  pure (⟨negative, whole, fraction, exponent?⟩, s)

/-- Digits taken into a 64-bit number for as long as they fit: the number, and
    how many digits went into it. -/
def takeDigits : Nat → List Nat → Nat × Nat
  | n, [] => (n, 0)
  | n, d :: ds =>
    if 10 * n + d < 0x10000000000000000 then
      let (m, taken) := takeDigits (10 * n + d) ds
      (m, taken + 1)
    else (n, 0)

/-- The magnitude as a number of at most 64 bits and a power of ten; digits
    beyond those are dropped. -/
def scientific (x : Numeral) : Nat × Int :=
  let (n, taken) := takeDigits 0 x.whole
  let (m, places) := takeDigits n x.fraction
  (m, x.whole.length - taken - places + x.exponent?.getD 0)

/-- `m * 10 ^ e` as a double-precision magnitude, rounded once for the number,
    once for the power and once for their product. Powers beyond `10 ^ (-308)`
    are divided out in steps; three steps turn every 64-bit number into zero. -/
def scale? (steps : Nat) (m : Rat) (e : Int) : Option Rat :=
  if e.natAbs ≤ 308 then
    if 0 ≤ e then Binary64.nearest? (m * Binary64.round ((10 : Rat) ^ e))
    else Binary64.nearest? (m / Binary64.round ((10 : Rat) ^ (-e)))
  else if m = 0 then some 0
  else if 0 ≤ e then none
  else
    match steps with
    | 0 => some 0
    | steps + 1 => scale? steps (Binary64.round (m / Binary64.round ((10 : Rat) ^ (308 : Int)))) (e + 308)

/-- The numeral as a double-precision number. -/
def real? (x : Numeral) : Option Binary64 :=
  let (m, e) := x.scientific
  (scale? 3 (Binary64.round m) e).map (Binary64.finite x.negative)

/-- What the numeral stands for. -/
def value? (x : Numeral) : Option Document :=
  let n := Text.ofDigits 10 x.whole
  match x.fraction, x.exponent?, x.negative with
  | [], none, true =>
    if 0 < n ∧ n ≤ 0x8000000000000000 then some (.integer (-n)) else x.real?.map .real
  | [], none, false =>
    if n < 0x10000000000000000 then some (.integer n) else x.real?.map .real
  | _, _, _ => x.real?.map .real

end Numeral

end Metering.Json
