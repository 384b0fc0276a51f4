/-!
# Binary numbers

Numbers of 64-bit floating point as significand and exponent, and the one that is nearest to a
quotient of natural numbers.
-/

namespace DesignMetrics.Number

/-- A finite number of 64-bit binary floating point: plus or minus `significand * 2 ^ exponent`. -/
structure Binary64 where
  negative : Bool
  significand : Nat
  exponent : Int
deriving DecidableEq, Repr

/-- `n / d` as a whole number: the nearest one, and of two nearest ones the even one. -/
def roundHalfEven (n d : Nat) : Nat :=
  let low := n / d
  let rest := n % d
  if 2 * rest < d then low
  else if d < 2 * rest then low + 1
  else low + low % 2

/-- `n / d` as a whole number of units of `2 ^ e`. -/
def roundInUnits (n d : Nat) (e : Int) : Nat :=
  roundHalfEven (n * Nat.pow 2 (-e).toNat) (d * Nat.pow 2 e.toNat)

namespace Binary64

/-- The exponents that a number can have. -/
def minExponent : Int := -1074

def maxExponent : Int := 971

def zero (negative : Bool) : Binary64 :=
  ⟨negative, 0, minExponent⟩

/-- The whole part of the binary logarithm of `n / d`. -/
def ratioLog2 (n d : Nat) : Int :=
  let guess := (n.log2 : Int) - d.log2
  if d * Nat.pow 2 guess.toNat ≤ n * Nat.pow 2 (-guess).toNat then guess else guess - 1

/-- The number nearest to `n / d`, a tie going to the even significand; `none` if that is too
large. The significand gets 53 bits, fewer where the exponent cannot become smaller. -/
def nearest? (negative : Bool) (n d : Nat) : Option Binary64 :=
  if n = 0 then some (zero negative)
  else
    let e := max minExponent (ratioLog2 n d - 52)
    let m := roundInUnits n d e
    -- rounding up may need a bit more than there are
    let (m, e) := if m = Nat.pow 2 53 then (Nat.pow 2 52, e + 1) else (m, e)
    if maxExponent < e then none else some ⟨negative, m, e⟩

end Binary64
end DesignMetrics.Number
