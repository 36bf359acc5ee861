import Metering.Rounded.Nearest

/-!
# Rounded arithmetic

Usage is apportioned in arithmetic of 53 significant binary digits: an
operation gives the grid point nearest to its exact result (`nearest`). Where
the exact result does not exist, it is infinite, or undefined.

* `Rounded.ofInt`, `sub`, `mul`, `div`: the operations of apportioning;
* `Rounded.truncate`: back to a 64-bit integer. A fraction is dropped, what is
  out of range stops at the nearer end, and an undefined amount counts as zero.
-/

namespace Metering

/-- A number known to 53 significant binary digits. -/
inductive Rounded where
  /-- An ordinary number, one of the grid. -/
  | finite (value : Rat)
  /-- Beyond every number, on the negative side or on the positive one. -/
  | infinite (negative : Bool)
  /-- No number: the result of an operation that has no value. -/
  | undefined
deriving Repr, DecidableEq

namespace Rounded

/-- The grid point nearest to an integer. -/
def ofInt (n : Int) : Rounded := finite (nearest n)

/-- The rounded difference. Two infinities on the same side have none. -/
def sub : Rounded → Rounded → Rounded
  | finite a, finite b => finite (nearest (a - b))
  | finite _, infinite s => infinite (!s)
  | infinite s, finite _ => infinite s
  | infinite s, infinite t => if s = t then undefined else infinite s
  | undefined, _ => undefined
  | _, undefined => undefined

/-- The product of a number and an infinity: undefined for zero. -/
def scaleInfinite (a : Rat) (negative : Bool) : Rounded :=
  if a = 0 then undefined else infinite (negative ^^ decide (a < 0))

/-- The rounded product. -/
def mul : Rounded → Rounded → Rounded
  | finite a, finite b => finite (nearest (a * b))
  | finite a, infinite s => scaleInfinite a s
  | infinite s, finite b => scaleInfinite b s
  | infinite s, infinite t => infinite (s ^^ t)
  | undefined, _ => undefined
  | _, undefined => undefined

/-- The rounded quotient. A zero divisor is the difference of two equal bounds,
    which counts as positive: it sends what is not zero to the infinity of its sign. -/
def div : Rounded → Rounded → Rounded
  | finite a, finite b =>
    if b = 0 then if a = 0 then undefined else infinite (decide (a < 0))
    else finite (nearest (a / b))
  | finite _, infinite _ => finite 0
  | infinite s, finite b => infinite (s ^^ decide (b < 0))
  | infinite _, infinite _ => undefined
  | undefined, _ => undefined
  | _, undefined => undefined

/-- The 64-bit integer that `x` stands for: without its fraction, at the nearer
    end if out of range, and zero if undefined. -/
def truncate : Rounded → Int64
  | finite q => Int64.ofIntClamp (q.num.tdiv q.den)
  | infinite true => Int64.minValue
  | infinite false => Int64.maxValue
  | undefined => 0

end Rounded

end Metering
