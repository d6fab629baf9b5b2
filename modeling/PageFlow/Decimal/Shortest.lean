import PageFlow.Decimal.Binary64

/-!
# Shortest decimal text

The fewest decimal digits that read back as the same double precision number,
and of those the digits nearest to it. A number stands for the interval of reals
that round to it; its ends belong to it exactly when the significand is even.
-/

namespace PageFlow.Decimal

/-- A decimal: `digits · 10^exponent`. -/
structure Scaled where
  digits : Nat
  exponent : Int
  deriving DecidableEq, Repr

/-- The interval of reals that round to a number of units, in quarters of a
unit. -/
structure Interval where
  low : Nat
  high : Nat
  closed : Bool

/-- The interval of `units`. Below a power of two the neighbour is only half as
far. -/
def Interval.ofUnits (units : Nat) : Interval :=
  let gap := Binary64.spacing units
  let narrow := gap > 1 && units == Nat.pow 2 (Nat.log2 units)
  { low := 4 * units - (if narrow then gap else 2 * gap)
    high := 4 * units + 2 * gap
    closed := (units / gap) % 2 == 0 }

/-- The exponent of the first decimal digit of a positive number of units. -/
def leadingExponent (units : Nat) : Int :=
  let guess : Int :=
    Int.fdiv (((Nat.log2 units : Nat) : Int) * 30103 - 1074 * 30103) 100000
  let reaches (exponent : Int) : Bool :=
    if 0 ≤ exponent then Binary64.one * Nat.pow 10 exponent.toNat ≤ units
    else Binary64.one ≤ units * Nat.pow 10 (-exponent).toNat
  if reaches (guess + 1) then guess + 1 else if reaches guess then guess
    else guess - 1

/-- The point of the grid of multiples of `10^exponent` in the interval that is
nearest to the number, if any lies in it. -/
def onGrid? (units : Nat) (exponent : Int) : Option Scaled :=
  let interval := Interval.ofUnits units
  let up := if exponent < 0 then Nat.pow 10 (-exponent).toNat else 1
  let down :=
    Binary64.one * (if 0 ≤ exponent then Nat.pow 10 exponent.toNat else 1)
  let below := units * up / down
  let inside (point : Nat) : Bool :=
    let scaled := 4 * point * down
    if interval.closed then interval.low * up ≤ scaled &&
      scaled ≤ interval.high * up
    else interval.low * up < scaled && scaled < interval.high * up
  let nearest := roundDiv (units * up) down
  if inside nearest then some ⟨nearest, exponent⟩
  else if inside below then some ⟨below, exponent⟩
  else if inside (below + 1) then some ⟨below + 1, exponent⟩
  else none

/-- A carry into a new first digit leaves a zero at the end, which is
dropped. -/
def Scaled.dropZero (decimal : Scaled) : Scaled :=
  if decimal.digits % 10 = 0 then ⟨decimal.digits / 10, decimal.exponent + 1⟩
    else decimal

/-- The shortest decimal of a positive number of units: grids of 1, 2, … 17
digits are tried in order, and the last one always has a point. -/
def shortest (units : Nat) : Scaled :=
  let lead := leadingExponent units
  Scaled.dropZero <|
  ((List.range 17).findSome? fun (more : Nat) =>
    onGrid? units (lead - (more : Int))).getD ⟨0, 0⟩

end PageFlow.Decimal
