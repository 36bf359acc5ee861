import Metering.Document
import Metering.Toml.Moment

/-!
# Plain values in settings

The values that are written without quotes and brackets: truth values, numbers,
dates and times. Digits may be set apart by single underscores.

* `Scalar.read?`: the value that a text is. An integer has at most 128 bits,
  signed or unsigned. A date or a time becomes a record without members.
-/

namespace Metering.Toml.Scalar

/-- Digits, with single underscores between them. -/
def grouped? (base : Nat) : List Char → Option (List Nat)
  | [] => none
  | [c] => (Text.digit? base c).map ([·])
  | c :: '_' :: s => do pure ((← Text.digit? base c) :: (← grouped? base s))
  | c :: s => do pure ((← Text.digit? base c) :: (← grouped? base s))

/-- Decimal digits that do not start with a zero, unless it is the only one. -/
def whole? (s : List Char) : Option (List Nat) :=
  (grouped? 10 s).filter fun ds => ds.head? ≠ some 0 || ds.length = 1

/-- An integer with a base in front of it. -/
def based? : List Char → Option Nat
  | '0' :: 'x' :: s => (grouped? 16 s).map (Text.ofDigits 16)
  | '0' :: 'o' :: s => (grouped? 8 s).map (Text.ofDigits 8)
  | '0' :: 'b' :: s => (grouped? 2 s).map (Text.ofDigits 2)
  | _ => none

/-- An integer of at most 128 bits. -/
def integer? (n : Int) : Option Document :=
  if -0x80000000000000000000000000000000 ≤ n ∧ n < 0x100000000000000000000000000000000 then
    some (.integer n)
  else none

/-- A power of ten behind the letter that announces it. -/
def exponent? (s : List Char) : Option Int := do
  let (negative, s) := Text.sign s
  let n := Text.ofDigits 10 (← grouped? 10 s)
  pure (if negative then -n else n)

/-- The letter that announces a power of ten. -/
def isExponentMark (c : Char) : Bool := c = 'e' || c = 'E'

/-- The magnitude of a number with a fraction or a power of ten, or with both. -/
def magnitude? (s : List Char) : Option Rat := do
  let mantissa := s.takeWhile (!isExponentMark ·)
  let exponent ← match s.dropWhile (!isExponentMark ·) with
    | [] => some 0
    | _ :: s => exponent? s
  let whole ← whole? (mantissa.takeWhile (· ≠ '.'))
  let fraction ← match mantissa.dropWhile (· ≠ '.') with
    | [] => some []
    | _ :: s => grouped? 10 s
  Binary64.ofDecimal? (whole ++ fraction) (exponent - fraction.length)

/-- The number that a text is. -/
def number? (s : List Char) : Option Document :=
  match based? s with
  | some n => integer? n
  | none =>
    let (negative, s) := Text.sign s
    if s = ['i', 'n', 'f'] then some (.real (.infinite negative))
    else if s = ['n', 'a', 'n'] then some (.real .undefined)
    else if s.any fun c => c = '.' || isExponentMark c then
      (magnitude? s).map fun q => .real (.finite negative q)
    else
      (whole? s).bind fun ds =>
        integer? (if negative then -Text.ofDigits 10 ds else Text.ofDigits 10 ds)

/-- The value that a text is. -/
def read? (s : List Char) : Option Document :=
  if s = ['t', 'r', 'u', 'e'] then some (.boolean true)
  else if s = ['f', 'a', 'l', 's', 'e'] then some (.boolean false)
  else if Moment.isMoment s then some (.record [])
  else number? s

/-- A character of which plain values are made. -/
def isMember (c : Char) : Bool := c.isAlphanum || ['+', '-', '.', ':', '_'].contains c

/-- A plain value at the head of a text, and the rest. A blank between a date and
    a digit belongs to the value. -/
def take? (s : List Char) : Option (Document × List Char) :=
  let first := s.takeWhile isMember
  let rest := s.dropWhile isMember
  match rest with
  | ' ' :: c :: s =>
    if Moment.afterDate? first = some [] ∧ c.isDigit then
      let second := (c :: s).takeWhile isMember
      (read? (first ++ ' ' :: second)).map (·, (c :: s).dropWhile isMember)
    else (read? first).map (·, rest)
  | _ => (read? first).map (·, rest)

end Metering.Toml.Scalar
