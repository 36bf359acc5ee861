import Metering.Saturation

/-!
# Digits

Whole numbers as they are written in digits of some base up to sixteen.

* `digits`: the digits at the head of a text;
* `ofDigits`: the number that digits stand for;
* `int64?`: the 64-bit integer that a text is, in decimal digits and with or
  without a sign.
-/

namespace Metering.Text

/-- The value of a hexadecimal digit. -/
def hexDigit? (c : Char) : Option Nat :=
  if '0' ≤ c ∧ c ≤ '9' then some (c.toNat - '0'.toNat)
  else if 'a' ≤ c ∧ c ≤ 'f' then some (c.toNat - 'a'.toNat + 10)
  else if 'A' ≤ c ∧ c ≤ 'F' then some (c.toNat - 'A'.toNat + 10)
  else none

/-- The value of a digit of some base. -/
def digit? (base : Nat) (c : Char) : Option Nat := (hexDigit? c).filter (· < base)

/-- The digits at the head of a text, and the rest. -/
def digits (base : Nat) : List Char → List Nat × List Char
  | [] => ([], [])
  | c :: s =>
    match digit? base c with
    | some d =>
      let (ds, rest) := digits base s
      (d :: ds, rest)
    | none => ([], c :: s)

/-- The number that digits stand for, the first being the most significant. -/
def ofDigits (base : Nat) (ds : List Nat) : Nat := ds.foldl (fun n d => base * n + d) 0

/-- A sign at the head of a text: whether it is a minus, and the rest. -/
def sign : List Char → Bool × List Char
  | '-' :: s => (true, s)
  | '+' :: s => (false, s)
  | s => (false, s)

/-- The 64-bit integer that a text is. -/
def int64? (s : List Char) : Option Int64 :=
  let (negative, s) := sign s
  match digits 10 s with
  | ([], _) => none
  | (ds, []) => Saturation.fits? (if negative then -ofDigits 10 ds else ofDigits 10 ds)
  | (_, _ :: _) => none

end Metering.Text
