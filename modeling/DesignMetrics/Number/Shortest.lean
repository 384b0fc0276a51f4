import DesignMetrics.Number.Binary64

/-!
# Shortest decimals

The decimal number with the fewest digits that rounds to a given binary number. All comparisons
are made between natural numbers, so none of them is rounded.
-/

namespace DesignMetrics.Number

/-- A positive decimal number `digits * 10 ^ exponent`. -/
structure Decimal where
  digits : Nat
  exponent : Int
deriving DecidableEq, Repr

namespace Decimal

/-- Moves the zeros at the end of the digits into the exponent. -/
def normalize : (fuel : Nat) → Decimal → Decimal
  | 0, d => d
  | fuel + 1, d =>
    if d.digits ≠ 0 ∧ d.digits % 10 = 0 then normalize fuel ⟨d.digits / 10, d.exponent + 1⟩ else d

end Decimal

/-- The reals that round to a number: twice its significand plus or minus one, in halves of its
last place. Below a power of two the gap is half as wide, so everything is counted in quarters. -/
structure RoundingInterval where
  low : Nat
  value : Nat
  high : Nat
  unitExponent : Int
  closed : Bool

namespace RoundingInterval

def of (x : Binary64) : RoundingInterval :=
  let m := x.significand
  let narrow := m = Nat.pow 2 52 ∧ Binary64.minExponent < x.exponent
  { low := if narrow then 4 * m - 1 else 4 * m - 2
    value := 4 * m
    high := 4 * m + 2
    unitExponent := x.exponent - 2
    closed := m % 2 = 0 }

/-- Compares `a * 2 ^ p` with `b * 10 ^ q`. -/
def compareScaled (a : Nat) (p : Int) (b : Nat) (q : Int) : Ordering :=
  compare (a * Nat.pow 2 p.toNat * Nat.pow 10 (-q).toNat)
    (b * Nat.pow 10 q.toNat * Nat.pow 2 (-p).toNat)

/-- Whether a decimal number rounds to the number that the interval belongs to. -/
def contains (i : RoundingInterval) (d : Decimal) : Bool :=
  let inside (bound : Nat) (side : Ordering) :=
    let order := compareScaled bound i.unitExponent d.digits d.exponent
    order == side || (i.closed && order == .eq)
  inside i.low .lt && inside i.high .gt

/-- The least `k` for which the value is below `10 ^ k`; `bits` is the binary logarithm of the
value, from which the search starts. -/
def scale (i : RoundingInterval) : Int :=
  let bits : Int := (i.value.log2 : Int) + i.unitExponent
  let start := (bits * 30103) / 100000
  if compareScaled i.value i.unitExponent 1 start == .lt then start
  else if compareScaled i.value i.unitExponent 1 (start + 1) == .lt then start + 1
  else start + 2

/-- The neighbour below of the value on the grid of multiples of `10 ^ q`. -/
def floorOnGrid (i : RoundingInterval) (q : Int) : Nat :=
  (i.value * Nat.pow 2 i.unitExponent.toNat * Nat.pow 10 (-q).toNat) /
    (Nat.pow 10 q.toNat * Nat.pow 2 (-i.unitExponent).toNat)

/-- Of the two neighbours of the value on a grid the one that rounds to it; if both do, the nearer
one, and on a tie the even one. -/
def onGrid? (i : RoundingInterval) (q : Int) : Option Decimal :=
  let below := i.floorOnGrid q
  let low : Decimal := ⟨below, q⟩
  let high : Decimal := ⟨below + 1, q⟩
  match i.contains low, i.contains high with
  | false, false => none
  | true, false => some low
  | false, true => some high
  | true, true =>
    match compareScaled (2 * i.value) i.unitExponent (2 * below + 1) q with
    | .lt => some low
    | .gt => some high
    | .eq => some (if below % 2 = 0 then low else high)

end RoundingInterval

/-- The decimal number with the fewest digits that rounds to `x`, and of those the nearest.
Seventeen digits are always enough; `x` must not be zero. -/
def shortest (x : Binary64) : Decimal :=
  let i := RoundingInterval.of x
  let k := i.scale
  let found := (List.range 17).findSome? fun n : Nat => i.onGrid? (k - (n + 1))
  (found.getD ⟨i.floorOnGrid (k - 17), k - 17⟩).normalize 17

end DesignMetrics.Number
