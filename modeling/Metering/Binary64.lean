import Metering.Rounded.Nearest
import Metering.Text.Digits

/-!
# Double-precision numbers

The numbers with a fraction that documents hold: 53 significant binary digits,
magnitudes from `2 ^ (-1074)` to just below `2 ^ 1024`, both infinities, and a
value that is not a number. The program never computes with them; it reads
them, and writes them where it explains why they are not what it needs.

* `Binary64.nearest?`: the number nearest to a rational magnitude, and
  `Binary64.ofDecimal?`, to a decimal;
* `Binary64.text`: the shortest decimal that reads back as the same number.
-/

namespace Metering

/-- A double-precision number. -/
inductive Binary64 where
  /-- A number, by sign and magnitude. Zero comes with both signs. -/
  | finite (negative : Bool) (magnitude : Rat)
  /-- An infinity. -/
  | infinite (negative : Bool)
  /-- Not a number. -/
  | undefined
deriving Repr, DecidableEq

namespace Binary64

/-- The distance of neighbouring numbers around `q`. -/
def spacing (q : Rat) : Rat := (2 : Rat) ^ max (Rounded.leadingPlace q - 52) (-1074)

/-- The number nearest to a magnitude, ties to the even one, if the exponent had no upper end. -/
def round (q : Rat) : Rat :=
  if q = 0 then 0 else Rounded.nearestInt (q / spacing q) * spacing q

/-- The number nearest to a magnitude, unless it is out of range. -/
def nearest? (q : Rat) : Option Rat := if round q < (2 : Rat) ^ (1024 : Int) then some (round q) else none

/-- The number nearest to the decimal with the digits `ds`, the last of which
    stands for `10 ^ e`. Where the place of the leading digit alone shows that the
    decimal is out of range, or so small that zero is nearest, nothing is computed. -/
def ofDecimal? (ds : List Nat) (e : Int) : Option Rat :=
  match ds.dropWhile (· = 0) with
  | [] => some 0
  | ds =>
    let place := ds.length + e - 1
    if 308 < place then none
    else if place < -330 then some 0
    else nearest? (Text.ofDigits 10 ds * (10 : Rat) ^ e)

/-- The place of the leading decimal digit of `q > 0`: the `k` such that
    `10 ^ k ≤ q < 10 ^ (k + 1)`. The binary place gives it up to one. -/
def decimalPlace (q : Rat) : Int :=
  let k := Rounded.leadingPlace q * 30103 / 100000
  if (10 : Rat) ^ (k + 1) ≤ q then k + 1 else if q < (10 : Rat) ^ k then k - 1 else k

/-- How numbers are spelled. A number that is not in positional notation has one
    digit before the point and a power of ten. -/
structure Spelling where
  /-- Whether a number is positional whose point stands so many digits behind its first one. -/
  isPositional : Int → Bool
  /-- Of two decimals that are equally near, the even one is taken, and not the greater one. -/
  tiesToEven : Bool

/-- The multiple of `10 ^ e` that reads back as `q`, if one does. Only the two
    multiples next to `q` can; of both the nearer one is taken. -/
def multiple? (tiesToEven : Bool) (q : Rat) (e : Int) : Option Nat :=
  let unit := (10 : Rat) ^ e
  let below := (q / unit).floor.toNat
  let rest := q / unit - below
  let readsBack (d : Nat) : Bool := round (d * unit) = q
  match readsBack below, readsBack (below + 1) with
  | true, true =>
    if rest < 1 / 2 ∨ (rest = 1 / 2 ∧ tiesToEven ∧ below % 2 = 0) then some below
    else some (below + 1)
  | true, false => some below
  | false, true => some (below + 1)
  | false, false => none

/-- The decimal `d * 10 ^ e` with the fewest digits that reads back as `q > 0`.
    Seventeen digits are always enough. -/
def shortest (tiesToEven : Bool) (q : Rat) : Nat × Int :=
  let place := decimalPlace q
  ((List.range 17).findSome? fun (n : Nat) =>
    let e := place - n
    (multiple? tiesToEven q e).map (·, e)).getD (0, 0)

/-- Every number in positional notation, ties going to the greater decimal. -/
def Spelling.positional : Spelling := ⟨fun _ => true, false⟩

/-- Positional notation up to sixteen digits before the point and four zeros
    behind it, ties going to the even decimal. -/
def Spelling.compact : Spelling := ⟨fun point => -5 < point && point ≤ 16, true⟩

/-- The digits behind the point: `n` in so many places, without zeros at the end,
    but at least one. -/
def fraction (n places : Nat) : String :=
  let digits := (Nat.toDigits 10 n).leftpad places '0'
  match (digits.reverse.dropWhile (· = '0')).reverse with
  | [] => "0"
  | kept => String.ofList kept

/-- The decimal `d * 10 ^ e` in positional notation, always with a point. -/
def positional (d : Nat) (e : Int) : String :=
  match e with
  | .ofNat zeros => toString (d * Nat.pow 10 zeros) ++ ".0"
  | .negSucc k =>
    let places := k + 1
    toString (d / Nat.pow 10 places) ++ "." ++ fraction (d % Nat.pow 10 places) places

/-- A decimal with one digit before the point: digits and the place of the first one. -/
def scientific (digits : List Char) (place : Int) : String :=
  let significand := match digits with
    | [] => "0"
    | [c] => String.ofList [c]
    | c :: cs => String.ofList (c :: '.' :: cs)
  significand ++ "e" ++ toString place

/-- The decimal `d * 10 ^ e` as it is spelled. -/
def decimal (spelling : Spelling) (d : Nat) (e : Int) : String :=
  let digits := Nat.toDigits 10 d
  let point := digits.length + e
  if spelling.isPositional point then positional d e
  else scientific ((digits.reverse.dropWhile (· = '0')).reverse) (point - 1)

/-- A minus sign where one belongs. -/
def sign (negative : Bool) : String := if negative then "-" else ""

/-- The number as the shortest decimal that reads back. -/
def text (spelling : Spelling) : Binary64 → String
  | finite negative q =>
    sign negative ++
      if q = 0 then "0.0"
      else
        let (d, e) := shortest spelling.tiesToEven q
        decimal spelling d e
  | infinite negative => sign negative ++ "inf"
  | undefined => "NaN"

end Binary64

end Metering
