/-!
# Rounding to the nearest

The grid of the numbers that have 53 significant binary digits, and the grid
point nearest to a rational number (`nearest`). A number half way between two
neighbours goes to the one whose last digit is even.

The grid has no smallest and no largest magnitude. Quotients and products of
differences of 64-bit integers stay far inside the range in which a binary
floating-point format of 53 digits has all of these points.
-/

namespace Metering.Rounded

/-- The integer nearest to `q`; of two equally near ones, the even one. -/
def nearestInt (q : Rat) : Int :=
  let below := q.floor
  let rest := q - below
  if rest < 1 / 2 then below
  else if 1 / 2 < rest then below + 1
  else if below % 2 = 0 then below
  else below + 1

/-- The place of the leading binary digit of `q`: for `q ≠ 0`, the `e` such that
    `2 ^ e ≤ |q| < 2 ^ (e + 1)`. -/
def leadingPlace (q : Rat) : Int :=
  let e : Int := q.num.natAbs.log2 - q.den.log2
  if (2 : Rat) ^ e ≤ q.abs then e else e - 1

/-- The distance of neighbouring grid points around `q`. -/
def spacing (q : Rat) : Rat := (2 : Rat) ^ (leadingPlace q - 52)

/-- The number of 53 significant binary digits nearest to `q`, ties to the even one. -/
def nearest (q : Rat) : Rat :=
  if q = 0 then 0 else nearestInt (q / spacing q) * spacing q

end Metering.Rounded
