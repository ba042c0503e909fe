import MessageBus.Decimal.Binary

/-!
# Shortest decimals

The numbers that are rounded to `m · 2^q` are an interval around it, which reaches half of the way
to either neighbour. `Binary.shortest` is the decimal in this interval with the fewest digits, and
the nearest of those; of two that are equally near it is the greater one.

The powers of ten are tried as grids, the coarsest one first. On each of them only the two points
around `m · 2^q` can be the nearest ones, and where one of the two lies in the interval the search
is over.
-/

set_option autoImplicit false

namespace MessageBus.Decimal

/-- The number `digits · 10^exponent`. -/
structure Numeral10 where
  digits : Nat
  exponent : Int
deriving DecidableEq, Repr

/-- A number with the numbers that are rounded to it: those from `low` to `high`, all three over one
denominator. -/
structure Interval where
  low : Nat
  value : Nat
  high : Nat
  denominator : Nat
  /-- Whether the ends belong to the interval. -/
  closed : Bool

/-- The numbers that are rounded to a binary number. A tie goes to the even neighbour, so the ends
belong to the interval of an even one. -/
def Interval.of (b : Binary) : Interval :=
  let unit := 1 <<< (b.q - 2).toNat
  { low := (4 * b.m - if b.narrowBelow then 1 else 2) * unit
    value := 4 * b.m * unit
    high := (4 * b.m + 2) * unit
    denominator := 1 <<< (2 - b.q).toNat
    closed := b.m % 2 = 0 }

namespace Interval

/-- The interval as seen on the grid of the multiples of `10^j`: the multiples of the denominator
are the points of the grid. -/
def onGrid (i : Interval) (j : Int) : Interval :=
  let scale := Nat.pow 10 (-j).toNat
  { i with
    low := i.low * scale
    value := i.value * scale
    high := i.high * scale
    denominator := i.denominator * Nat.pow 10 j.toNat }

/-- Whether a whole number lies in the interval. -/
def contains (i : Interval) (n : Nat) : Bool :=
  let x := n * i.denominator
  if i.closed then i.low ≤ x && x ≤ i.high else i.low < x && x < i.high

/-- The whole number in the interval that is nearest to its value, if it is one of the two around
it. -/
def nearest? (i : Interval) : Option Nat :=
  let below := i.value / i.denominator
  match i.contains below, i.contains (below + 1) with
  | true, true =>
    some (if 2 * i.value < (2 * below + 1) * i.denominator then below else below + 1)
  | true, false => some below
  | false, true => some (below + 1)
  | false, false => none

end Interval

namespace Binary

/-- The number as a decimal with all its digits. -/
def exact (b : Binary) : Numeral10 :=
  if b.q < 0 then ⟨b.m * Nat.pow 5 (-b.q).toNat, b.q⟩ else ⟨b.m <<< b.q.toNat, 0⟩

/-- The first of so many grids, from that of `10^j` on to finer ones, with a point in the interval.
The finest of them has the number itself as a point. -/
def search (b : Binary) (i : Interval) : (grids : Nat) → (j : Int) → Numeral10
  | 0, _ => b.exact
  | grids + 1, j =>
    match (i.onGrid j).nearest? with
    | some digits => ⟨digits, j⟩
    | none => b.search i grids (j - 1)

/-- A power of ten that is greater than the number: three tenths of its binary exponent, and two
more. -/
def ceiling (b : Binary) : Int := (b.q + b.m.log2 + 1) * 30103 / 100000 + 2

/-- The decimal with the fewest digits that is rounded to the number. -/
def shortest (b : Binary) : Numeral10 :=
  b.search (.of b) (b.ceiling - min b.q 0).toNat b.ceiling

end Binary

end MessageBus.Decimal
