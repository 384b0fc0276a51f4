import DesignMetrics.Number.Binary64

/-!
# Ratios

Every factor is a quotient of two sums. A `Ratio` keeps both sums, and a `Score` adds the quotient
as a binary number.
-/

namespace DesignMetrics.Factor

open Number (Binary64)

/-- `n / d` as the nearest binary number; zero if `d` is zero, and `none` if it is too large. A
zero quotient has the sign of `d`. -/
def quotient? (n d : Int) : Option Binary64 :=
  if d = 0 then some (.zero false)
  else Binary64.nearest? (decide (n < 0) != decide (d < 0)) n.natAbs d.natAbs

/-- Two sums, the first of which is seen as a share of the second. -/
structure Ratio where
  numerator : Int
  denominator : Int
deriving DecidableEq, Repr

namespace Ratio

def zero : Ratio := ⟨0, 0⟩

def add (a b : Ratio) : Ratio :=
  ⟨a.numerator + b.numerator, a.denominator + b.denominator⟩

end Ratio

/-- A ratio whose quotient is a binary number. -/
structure Score where
  ratio : Ratio
  value : Binary64
  exact : quotient? ratio.numerator ratio.denominator = some value

/-- The score of a ratio, unless its quotient is too large. -/
def Ratio.score? (r : Ratio) : Option Score :=
  match h : quotient? r.numerator r.denominator with
  | some value => some ⟨r, value, h⟩
  | none => none

end DesignMetrics.Factor
